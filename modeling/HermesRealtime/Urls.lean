import HermesRealtime.QueryStrings

/-!
Splitting URLs and putting them together again. The split drops white space and control characters,
takes the scheme from before the first colon and the authority from between `//` and the first
delimiter. A URL that is put together from parts as a split leaves them is split into them again.
-/

namespace HermesRealtime.Urls

open Utf8 QueryStrings

/-- What a split asks of the libraries for IP addresses and Unicode: why an authority with a host in
brackets is refused, why any authority is, and the small letters of a host name. -/
structure Library where
  bracketed : Str → Option String
  authority : Str → Option String
  lower : Str → Str

structure SplitResult where
  scheme : Str
  netloc : Str
  path : Str
  query : Str
  fragment : Str
  deriving DecidableEq

/-- `str.lower` of ASCII. -/
def lowerAscii (s : Str) : Str := s.map fun c => if isUpper c then c + 32 else c

def isSchemeChar (c : ℕ) : Bool := isUpper c || isLower c || isDigit c || (str "+-.").contains c

/-- The tab, the line feed and the carriage return. -/
def isUnsafe (c : ℕ) : Bool := c == 9 || c == 10 || c == 13

/-- What is split: white space in front and unsafe characters are dropped. -/
def strip (url : Str) : Str := (url.dropWhile (· ≤ 32)).filter fun c => !isUnsafe c

def isDelimiter (c : ℕ) : Bool := (str "/?#").contains c

/-- The scheme, if what is before the first colon is one, and the rest. -/
def splitScheme (url : Str) : Str × Str :=
  match partition ':'.toNat url with
  | (scheme, some after) =>
    if scheme.head?.any (fun c => isUpper c || isLower c) ∧ scheme.all isSchemeChar then
      (lowerAscii scheme, after)
    else ([], url)
  | (_, none) => ([], url)

/-- The authority after `//`, and the rest. -/
def splitNetloc : Str → Str × Str
  | c :: d :: url =>
    if c = '/'.toNat ∧ d = '/'.toNat then
      (url.takeWhile fun c => !isDelimiter c, url.dropWhile fun c => !isDelimiter c)
    else ([], c :: d :: url)
  | url => ([], url)

section

variable (L : Library)

/-- The text of the `ValueError` that an authority raises. -/
def netlocError (netloc : Str) : Option String :=
  if '['.toNat ∈ netloc ∧ ']'.toNat ∈ netloc then
    (L.bracketed netloc).orElse fun _ => L.authority netloc
  else if '['.toNat ∈ netloc ∨ ']'.toNat ∈ netloc then some "Invalid IPv6 URL"
  else L.authority netloc

/-- `urlsplit`. -/
def urlsplit (url : Str) : Except String SplitResult :=
  let named := splitScheme (strip url)
  let placed := splitNetloc named.2
  match netlocError L placed.1 with
  | some text => .error text
  | none =>
    let marked := partition '#'.toNat placed.2
    let asked := partition '?'.toNat marked.1
    .ok ⟨named.1, placed.1, asked.1, asked.2.getD [], marked.2.getD []⟩

/-! ### The parts of an authority -/

/-- `rpartition('@')` of an authority: the user if there is one, and the host. -/
def splitUser (netloc : Str) : Option Str × Str :=
  match partition '@'.toNat netloc.reverse with
  | (host, some user) => (some user.reverse, host.reverse)
  | (host, none) => (none, host.reverse)

def SplitResult.username (r : SplitResult) : Option Str :=
  (splitUser r.netloc).1.map fun user => (partition ':'.toNat user).1

def SplitResult.password (r : SplitResult) : Option Str :=
  (splitUser r.netloc).1.bind fun user => (partition ':'.toNat user).2

/-- The host of an authority, without its port. -/
def hostOf (netloc : Str) : Str :=
  match partition '['.toNat (splitUser netloc).2 with
  | (_, some bracketed) => (partition ']'.toNat bracketed).1
  | (host, none) => (partition ':'.toNat host).1

/-- `hostname`: the zone of an address keeps its letters. -/
def SplitResult.hostname (r : SplitResult) : Option Str :=
  if hostOf r.netloc = [] then none
  else match partition '%'.toNat (hostOf r.netloc) with
    | (host, some zone) => some (L.lower host ++ '%'.toNat :: zone)
    | (host, none) => some (L.lower host)

end

/-! ### Putting a URL together -/

/-- `uses_netloc`. -/
def usesNetloc : List Str :=
  ["", "ftp", "http", "gopher", "nntp", "telnet", "imap", "wais", "file", "mms", "https", "shttp",
    "snews", "prospero", "rtsp", "rtsps", "rtspu", "rsync", "svn", "svn+ssh", "sftp", "nfs", "git",
    "git+ssh", "ws", "wss", "itms-services"].map str

def joinNetloc (r : SplitResult) : Str :=
  if r.netloc ≠ [] then
    str "//" ++ r.netloc ++
      (if r.path ≠ [] ∧ r.path.head? ≠ some '/'.toNat then '/'.toNat :: r.path else r.path)
  else if r.path.take 2 = str "//" then str "//" ++ r.path
  else if r.scheme ≠ [] ∧ r.scheme ∈ usesNetloc ∧ (r.path = [] ∨ r.path.head? = some '/'.toNat) then
    str "//" ++ r.path
  else r.path

/-- A part that is not empty, after its separator. -/
def joinPart (sep : ℕ) (part : Str) : Str := if part ≠ [] then sep :: part else []

/-- `urlunsplit`. -/
def urlunsplit (r : SplitResult) : Str :=
  (if r.scheme ≠ [] then r.scheme ++ [':'.toNat] else []) ++ joinNetloc r ++
    joinPart '?'.toNat r.query ++ joinPart '#'.toNat r.fragment

/-! ### What is put together is split again -/

/-- The parts that a split leaves of a URL with a scheme and an authority. -/
structure Regular (L : Library) (r : SplitResult) : Prop where
  scheme_head : r.scheme.head?.any (fun c => isLower c) = true
  scheme_chars : ∀ c ∈ r.scheme, isSchemeChar c = true ∧ isUpper c = false
  netloc_nonempty : r.netloc ≠ []
  netloc_chars : ∀ c ∈ r.netloc, isDelimiter c = false
  netloc_checked : netlocError L r.netloc = none
  path_head : r.path = [] ∨ r.path.head? = some '/'.toNat
  path_chars : '?'.toNat ∉ r.path ∧ '#'.toNat ∉ r.path
  query_chars : '#'.toNat ∉ r.query
  safe : ∀ part ∈ [r.netloc, r.path, r.query, r.fragment], ∀ c ∈ part, isUnsafe c = false

variable {L : Library} {r : SplitResult} {scheme netloc rest : Str}

lemma schemeChar_range {c : ℕ} (h : isSchemeChar c = true) :
    32 < c ∧ c ≠ ':'.toNat ∧ isUnsafe c = false := by
  simp [isSchemeChar, isUpper, isLower, isDigit, isUnsafe, str] at h ⊢
  omega

lemma lowerAscii_of_lower (h : ∀ c ∈ scheme, isUpper c = false) : lowerAscii scheme = scheme := by
  refine (List.map_congr_left fun c hc => ?_).trans (List.map_id scheme)
  rw [h c hc]
  rfl

lemma splitScheme_append (hhead : scheme.head?.any (fun c => isLower c) = true)
    (hchars : ∀ c ∈ scheme, isSchemeChar c = true ∧ isUpper c = false) (rest : Str) :
    splitScheme (scheme ++ ':'.toNat :: rest) = (scheme, rest) := by
  have hcolon : ':'.toNat ∉ scheme := fun hmem =>
    (schemeChar_range (hchars _ hmem).1).2.1 rfl
  have hletter : scheme.head?.any (fun c => isUpper c || isLower c) = true := by
    cases scheme with
    | nil => cases hhead
    | cons c scheme =>
      rw [List.head?_cons, Option.any_some] at hhead ⊢
      rw [hhead, Bool.or_true]
  have hall : scheme.all isSchemeChar = true := List.all_eq_true.mpr fun c hc => (hchars c hc).1
  rw [splitScheme, partition_append hcolon]
  simp only
  rw [if_pos ⟨hletter, hall⟩, lowerAscii_of_lower fun c hc => (hchars c hc).2]

lemma splitNetloc_append (hnetloc : ∀ c ∈ netloc, isDelimiter c = false)
    (hrest : rest.head?.all isDelimiter = true) :
    splitNetloc (str "//" ++ (netloc ++ rest)) = (netloc, rest) := by
  have hkeep : ∀ c ∈ netloc, (!isDelimiter c) = true := fun c hc => by rw [hnetloc c hc]; rfl
  have hstop : rest.takeWhile (fun c => !isDelimiter c) = [] ∧
      rest.dropWhile (fun c => !isDelimiter c) = rest := by
    cases rest with
    | nil => exact ⟨rfl, rfl⟩
    | cons c rest =>
      rw [List.head?_cons, Option.all_some] at hrest
      rw [List.takeWhile_cons, List.dropWhile_cons, hrest]
      exact ⟨rfl, rfl⟩
  change ((netloc ++ rest).takeWhile _, (netloc ++ rest).dropWhile _) = _
  rw [List.takeWhile_append_of_pos hkeep, List.dropWhile_append_of_pos hkeep, hstop.1, hstop.2,
    List.append_nil]

lemma partition_joinPart {sep : ℕ} {before : Str} (h : sep ∉ before) (part : Str) :
    (partition sep (before ++ joinPart sep part)).1 = before ∧
      (partition sep (before ++ joinPart sep part)).2.getD [] = part := by
  unfold joinPart
  split
  · rw [partition_append h]
    exact ⟨rfl, rfl⟩
  · rw [List.append_nil, partition_of_notMem h]
    exact ⟨rfl, (of_not_not ‹¬ part ≠ []›).symm⟩

lemma urlunsplit_regular (h : Regular L r) :
    urlunsplit r = r.scheme ++ ':'.toNat :: (str "//" ++ (r.netloc ++
      (r.path ++ joinPart '?'.toNat r.query ++ joinPart '#'.toNat r.fragment))) := by
  have hscheme : r.scheme ≠ [] := by
    intro heq
    have hhead := h.scheme_head
    rw [heq] at hhead
    cases hhead
  have hpath : ¬ (r.path ≠ [] ∧ r.path.head? ≠ some '/'.toNat) := by
    rintro ⟨hne, hslash⟩
    exact h.path_head.elim hne hslash
  rw [urlunsplit, joinNetloc, if_pos hscheme, if_pos h.netloc_nonempty, if_neg hpath]
  simp only [List.append_assoc, List.cons_append, List.nil_append]

lemma strip_of_safe {url : Str} (hhead : url.head?.all (fun c => 32 < c) = true)
    (hsafe : ∀ c ∈ url, isUnsafe c = false) : strip url = url := by
  have hdrop : url.dropWhile (· ≤ 32) = url := by
    cases url with
    | nil => rfl
    | cons c url =>
      rw [List.dropWhile_cons_of_neg]
      simpa using hhead
  rw [strip, hdrop, List.filter_eq_self]
  intro c hc
  rw [hsafe c hc]
  rfl

lemma mem_joinPart {sep c : ℕ} {part : Str} (h : c ∈ joinPart sep part) : c = sep ∨ c ∈ part := by
  unfold joinPart at h
  split at h
  · exact List.mem_cons.mp h
  · cases h

/-- What follows the authority begins with a delimiter. -/
lemma rest_head (h : Regular L r) :
    (r.path ++ joinPart '?'.toNat r.query ++ joinPart '#'.toNat r.fragment).head?.all isDelimiter =
      true := by
  rcases h.path_head with hpath | hpath
  · rw [hpath, List.nil_append]
    unfold joinPart
    split
    · rfl
    · split <;> rfl
  · obtain ⟨path, hpath⟩ := List.head?_eq_some_iff.mp hpath
    rw [hpath]
    rfl

lemma urlunsplit_safe (h : Regular L r) : ∀ c ∈ urlunsplit r, isUnsafe c = false := by
  have hparts : ∀ part ∈ [r.netloc, r.path, r.query, r.fragment], ∀ c ∈ part, isUnsafe c = false :=
    h.safe
  intro c hc
  rw [urlunsplit_regular h] at hc
  simp only [List.mem_append, List.mem_cons] at hc
  rcases hc with hc | rfl | hc | hc | (hc | hc) | hc
  · exact (schemeChar_range (h.scheme_chars c hc).1).2.2
  · rfl
  · revert c
    decide
  · exact hparts _ (by simp) c hc
  · exact hparts _ (by simp) c hc
  · rcases mem_joinPart hc with rfl | hc
    · rfl
    · exact hparts _ (by simp) c hc
  · rcases mem_joinPart hc with rfl | hc
    · rfl
    · exact hparts _ (by simp) c hc

theorem urlsplit_urlunsplit (h : Regular L r) : urlsplit L (urlunsplit r) = .ok r := by
  have hhead : (urlunsplit r).head?.all (fun c => 32 < c) = true := by
    rw [urlunsplit_regular h]
    have hletter := h.scheme_head
    have hchars := h.scheme_chars
    cases hscheme : r.scheme with
    | nil =>
      rw [hscheme] at hletter
      cases hletter
    | cons c scheme =>
      have hrange := schemeChar_range (hchars c (by rw [hscheme]; exact List.mem_cons_self)).1
      simpa using hrange.1
  have hquery : '#'.toNat ∉ r.path ++ joinPart '?'.toNat r.query := by
    intro hmem
    rcases List.mem_append.mp hmem with hmem | hmem
    · exact h.path_chars.2 hmem
    · rcases mem_joinPart hmem with heq | hmem
      · exact absurd heq (by decide)
      · exact h.query_chars hmem
  obtain ⟨hbefore, hfragment⟩ := partition_joinPart hquery r.fragment
  obtain ⟨hpath, hasked⟩ := partition_joinPart h.path_chars.1 r.query
  simp only [urlsplit]
  rw [strip_of_safe hhead (urlunsplit_safe h), urlunsplit_regular h,
    splitScheme_append h.scheme_head h.scheme_chars,
    splitNetloc_append h.netloc_chars (rest_head h), h.netloc_checked, hbefore, hfragment, hpath,
    hasked]

/-! ### What a split leaves -/

lemma strip_safe (url : Str) : ∀ c ∈ strip url, isUnsafe c = false := by
  intro c hc
  simpa using (List.mem_filter.mp hc).2

lemma splitScheme_spec {url : Str} (h : (splitScheme url).1 ≠ []) :
    ∃ scheme, url = scheme ++ ':'.toNat :: (splitScheme url).2 ∧
      (splitScheme url).1 = lowerAscii scheme ∧
      scheme.head?.any (fun c => isUpper c || isLower c) = true ∧
      scheme.all isSchemeChar = true := by
  rcases partition_spec ':'.toNat url with ⟨-, hpart⟩ | ⟨scheme, after, hurl, -, hpart⟩
  · rw [splitScheme, hpart] at h
    exact absurd rfl h
  · rw [splitScheme, hpart] at h ⊢
    simp only at h ⊢
    split at h
    · rw [if_pos ‹_›]
      exact ⟨scheme, hurl, rfl, ‹_ ∧ _›⟩
    · exact absurd rfl h

/-- Letters of either case give small ones. -/
lemma lowerAscii_spec {scheme : Str}
    (hhead : scheme.head?.any (fun c => isUpper c || isLower c) = true)
    (hall : scheme.all isSchemeChar = true) :
    (lowerAscii scheme).head?.any (fun c => isLower c) = true ∧
      ∀ c ∈ lowerAscii scheme, isSchemeChar c = true ∧ isUpper c = false := by
  constructor
  · cases scheme with
    | nil => cases hhead
    | cons c scheme =>
      rw [List.head?_cons, Option.any_some] at hhead
      rw [lowerAscii, List.map_cons, List.head?_cons, Option.any_some]
      simp [isUpper, isLower] at hhead ⊢
      split <;> omega
  · intro c hc
    obtain ⟨d, hd, rfl⟩ := List.mem_map.mp hc
    have hchar := List.all_eq_true.mp hall d hd
    simp [isSchemeChar, isUpper, isLower, isDigit, str] at hchar ⊢
    split <;> omega

lemma splitNetloc_spec {url : Str} (h : (splitNetloc url).1 ≠ []) :
    url = str "//" ++ ((splitNetloc url).1 ++ (splitNetloc url).2) ∧
      (∀ c ∈ (splitNetloc url).1, isDelimiter c = false) ∧
      (splitNetloc url).2.head?.all isDelimiter = true := by
  rcases url with _ | ⟨c, _ | ⟨d, url⟩⟩
  · exact absurd rfl h
  · exact absurd rfl h
  simp only [splitNetloc] at h ⊢
  split at h
  case isFalse => exact absurd rfl h
  case isTrue hslashes =>
    obtain ⟨rfl, rfl⟩ := hslashes
    rw [if_pos ⟨rfl, rfl⟩]
    refine ⟨?_, fun c hc => ?_, ?_⟩
    · rw [List.takeWhile_append_dropWhile]
      rfl
    · simpa using List.mem_takeWhile_imp hc
    · have hstop := List.head?_dropWhile_not (fun c => !isDelimiter c) url
      cases hhead : (url.dropWhile fun c => !isDelimiter c).head? with
      | none => rfl
      | some c =>
        rw [hhead] at hstop
        simpa using hstop

/-- The two parts of a partition are in the text, and the separator is not in the first. -/
lemma partition_parts (sep : ℕ) (s : Str) :
    sep ∉ (partition sep s).1 ∧ (∀ c ∈ (partition sep s).1, c ∈ s) ∧
      (∀ c ∈ (partition sep s).2.getD [], c ∈ s) ∧
      ((partition sep s).1 = [] ∨ (partition sep s).1.head? = s.head?) := by
  rcases partition_spec sep s with ⟨hsep, hpart⟩ | ⟨before, after, rfl, hsep, hpart⟩
  · rw [hpart]
    refine ⟨hsep, fun c hc => hc, fun c hc => ?_, Or.inr rfl⟩
    cases hc
  · rw [hpart]
    refine ⟨hsep, fun c hc => List.mem_append_left _ hc, fun c hc => ?_, ?_⟩
    · exact List.mem_append_right _ (List.mem_cons_of_mem _ hc)
    · cases before with
      | nil => exact Or.inl rfl
      | cons c before => exact Or.inr rfl

/-- Of the delimiters, only the slash begins a path. -/
lemma path_head_of_rest {path rest : Str} (hrest : rest.head?.all isDelimiter = true)
    (hstart : path = [] ∨ path.head? = rest.head?) (hask : '?'.toNat ∉ path)
    (hmark : '#'.toNat ∉ path) : path = [] ∨ path.head? = some '/'.toNat := by
  cases path with
  | nil => exact Or.inl rfl
  | cons c path =>
    have hhead := hstart.resolve_left (List.cons_ne_nil c path)
    rw [← hhead, List.head?_cons, Option.all_some] at hrest
    have hdelimiter : c = '/'.toNat ∨ c = '?'.toNat ∨ c = '#'.toNat := by
      simpa [isDelimiter, str] using hrest
    rcases hdelimiter with rfl | rfl | rfl
    · exact Or.inr rfl
    · exact absurd List.mem_cons_self hask
    · exact absurd List.mem_cons_self hmark

/-- A URL with a scheme and an authority is split into parts that can be put together. -/
theorem regular_of_urlsplit {url : Str} (h : urlsplit L url = .ok r) (hscheme : r.scheme ≠ [])
    (hnetloc : r.netloc ≠ []) : Regular L r := by
  simp only [urlsplit] at h
  split at h
  case h_1 => cases h
  case h_2 hchecked =>
    cases h
    simp only at hscheme hnetloc
    obtain ⟨scheme, hstrip, hlower, hhead, hall⟩ := splitScheme_spec hscheme
    obtain ⟨hplaced, hchars, hrest⟩ := splitNetloc_spec hnetloc
    have hrestSafe : ∀ c ∈ (splitScheme (strip url)).2, isUnsafe c = false := by
      intro c hc
      refine strip_safe url c ?_
      rw [hstrip]
      exact List.mem_append_right _ (List.mem_cons_of_mem _ hc)
    rw [hplaced] at hrestSafe
    -- the fragment is taken off first, and the query from what is before it
    obtain ⟨hmark, hbefore, hfragment, hstart⟩ :=
      partition_parts '#'.toNat (splitNetloc (splitScheme (strip url)).2).2
    obtain ⟨hask, hpath, hquery, hbegin⟩ :=
      partition_parts '?'.toNat (partition '#'.toNat (splitNetloc (splitScheme (strip url)).2).2).1
    have hlowered := lowerAscii_spec hhead hall
    rw [← hlower] at hlowered
    refine ⟨hlowered.1, hlowered.2, hnetloc, hchars, hchecked, ?_, ⟨hask, ?_⟩, ?_, ?_⟩
    · refine path_head_of_rest hrest ?_ hask fun hmem => hmark (hpath _ hmem)
      rcases hbegin with hempty | hbegin
      · exact Or.inl hempty
      · rcases hstart with hempty | hstart
        · rw [hempty]
          exact Or.inl rfl
        · exact Or.inr (hbegin.trans hstart)
    · exact fun hmem => hmark (hpath _ hmem)
    · exact fun hmem => hmark (hquery _ hmem)
    · intro part hpart c hc
      refine hrestSafe c (List.mem_append_right _ ?_)
      simp only [List.mem_cons, List.not_mem_nil, or_false] at hpart
      rcases hpart with rfl | rfl | rfl | rfl
      · exact List.mem_append_left _ hc
      · exact List.mem_append_right _ (hbefore _ (hpath _ hc))
      · exact List.mem_append_right _ (hbefore _ (hquery _ hc))
      · exact List.mem_append_right _ (hfragment _ hc)

end HermesRealtime.Urls
