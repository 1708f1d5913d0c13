import HermesRealtime.Checks
import HermesRealtime.Urls
import Mathlib.Control.Monad.Basic

/-!
The URL that the browser is started with: the loopback URL of the voice page with the activation
token in its query. Three functions make such a URL and one checks it; what it lets through has been
put together from the parts of the configured URL and one token.
-/

namespace HermesRealtime.ActivationUrls

open Checks Utf8 QueryStrings Urls

inductive UrlError
  | browserLaunchError (text : String)
  | valueError (text : String)
  | unicodeEncodeError
  deriving DecidableEq

def require (c : Prop) [Decidable c] (text : String) : Except UrlError Unit :=
  if c then .ok () else .error (.browserLaunchError text)

def isLoopbackHost : Option Str → Bool
  | none => false
  | some hostname => [str "127.0.0.1", str "localhost", str "::1"].contains hostname

/-- `urlencode(query, doseq=True)`. -/
def encodeQuery (query : Query) : Except UrlError Str :=
  match urlencode query with
  | some encoded => .ok encoded
  | none => .error .unicodeEncodeError

/-- The name of the parameter. -/
def activation : Str := str "activation"

section

variable (L : Library)

def split (url : Str) : Except UrlError SplitResult := (urlsplit L url).mapError .valueError

def parseLoopbackUrl (url : Str) : Except UrlError SplitResult := do
  let parsed ← split L url
  require (parsed.scheme ≠ []) "loopback URL must include a scheme"
  require (parsed.scheme = str "http" ∨ parsed.scheme = str "https")
    "loopback URL must use http or https"
  require ((parsed.hostname L).getD [] ≠ []) "loopback URL must include a hostname"
  return parsed

def validateLoopbackBaseUrl (url : Str) : Except UrlError Str := do
  let parsed ← parseLoopbackUrl L url
  require (parsed.query = []) "loopback base URL must not include query parameters"
  require (parsed.fragment = []) "loopback base URL must not include a fragment"
  require (parsed.username = none ∧ parsed.password = none)
    "loopback base URL must not include credentials"
  require (isLoopbackHost (parsed.hostname L) = true) "loopback base URL must be loopback"
  return urlunsplit ⟨parsed.scheme, parsed.netloc, parsed.path, [], []⟩

def buildActivationLoopbackUrl (baseUrl activationToken : Str) : Except UrlError Str := do
  let parsed ← split L baseUrl
  let query := setValues activation [activationToken] (parseQs parsed.query)
  let encoded ← encodeQuery query
  return urlunsplit ⟨parsed.scheme, parsed.netloc, parsed.path, encoded, []⟩

/-- `_append_activation_query` of the controller, which keeps the fragment. -/
def appendActivationQuery (url token : Str) : Except UrlError Str := do
  let parsed ← split L url
  let query := setValues activation [token] (parseQs parsed.query)
  let encoded ← encodeQuery query
  return urlunsplit ⟨parsed.scheme, parsed.netloc, parsed.path, encoded, parsed.fragment⟩

def validateActivationLoopbackUrl (candidateUrl expectedBase : Str) : Except UrlError Str := do
  let candidate ← parseLoopbackUrl L candidateUrl
  let expected ← parseLoopbackUrl L expectedBase
  require ((candidate.scheme, candidate.netloc, candidate.path) =
    (expected.scheme, expected.netloc, expected.path))
    "loopback URL is not based on configured voice page URL"
  require (candidate.fragment = []) "loopback URL must not include a fragment"
  require (candidate.username = none ∧ candidate.password = none)
    "loopback URL must not include credentials"
  require (isLoopbackHost (candidate.hostname L) = true)
    "loopback URL must target a local loopback host"
  let query := parseQs candidate.query
  require (query ≠ [] ∧ ∀ item ∈ query, item.1 = activation)
    "loopback URL may only include the activation query parameter"
  let values := (query.lookup activation).getD []
  require (values.length = 1 ∧ values.head? ≠ some [])
    "loopback URL must include activation token"
  let encoded ← encodeQuery [(activation, values)]
  return urlunsplit ⟨candidate.scheme, candidate.netloc, candidate.path, encoded, []⟩

end

/-! ### What is accepted -/

variable {L : Library} {r : SplitResult}

lemma require_bind_iff {α : Type} {c : Prop} [Decidable c] {text : String}
    {f : Unit → Except UrlError α} {a : α} :
    (require c text >>= f) = .ok a ↔ c ∧ f () = .ok a := by
  rw [then_eq_ok, require, ite_ok_eq_ok]

lemma split_eq_ok {url : Str} : split L url = .ok r ↔ urlsplit L url = .ok r := by
  unfold split
  cases urlsplit L url <;> simp [Except.mapError]

/-- A web server on a host. -/
structure Served (L : Library) (r : SplitResult) : Prop where
  scheme : r.scheme = str "http" ∨ r.scheme = str "https"
  hostname : (r.hostname L).getD [] ≠ []

/-- A web server on this machine, for no user. -/
structure Local (L : Library) (r : SplitResult) : Prop extends Served L r where
  user : r.username = none ∧ r.password = none
  loopback : isLoopbackHost (r.hostname L) = true

lemma Served.scheme_nonempty (h : Served L r) : r.scheme ≠ [] := by
  rcases h.scheme with heq | heq
  · rw [heq]
    decide
  · rw [heq]
    decide

lemma Served.netloc_nonempty (h : Served L r) : r.netloc ≠ [] := by
  intro hempty
  refine h.hostname ?_
  rw [SplitResult.hostname, hempty]
  rfl

lemma parseLoopbackUrl_eq_ok {url : Str} :
    parseLoopbackUrl L url = .ok r ↔ urlsplit L url = .ok r ∧ Served L r := by
  unfold parseLoopbackUrl
  constructor
  · intro h
    obtain ⟨parsed, hsplit, h⟩ := bind_eq_ok.mp h
    obtain ⟨-, h⟩ := require_bind_iff.mp h
    obtain ⟨hscheme, h⟩ := require_bind_iff.mp h
    obtain ⟨hhost, h⟩ := require_bind_iff.mp h
    cases h
    exact ⟨split_eq_ok.mp hsplit, hscheme, hhost⟩
  · rintro ⟨hsplit, hserved⟩
    refine bind_eq_ok.mpr ⟨r, split_eq_ok.mpr hsplit, ?_⟩
    refine require_bind_iff.mpr ⟨hserved.scheme_nonempty, ?_⟩
    refine require_bind_iff.mpr ⟨hserved.scheme, ?_⟩
    exact require_bind_iff.mpr ⟨hserved.hostname, rfl⟩

/-! ### The URL with a token -/

/-- The parts with another query, and without a fragment. -/
def withQuery (r : SplitResult) (query : Str) : SplitResult :=
  ⟨r.scheme, r.netloc, r.path, query, []⟩

/-- The query with a quoted token. -/
def activationQuery (quoted : Str) : Str := str "activation=" ++ quoted

lemma Served.regular {url : Str} (h : Served L r) (hsplit : urlsplit L url = .ok r) : Regular L r :=
  regular_of_urlsplit hsplit h.scheme_nonempty h.netloc_nonempty

lemma regular_withQuery {query : Str} (h : Regular L r)
    (hquery : ∀ c ∈ query, 32 < c ∧ c ≠ '#'.toNat) : Regular L (withQuery r query) where
  scheme_head := h.scheme_head
  scheme_chars := h.scheme_chars
  netloc_nonempty := h.netloc_nonempty
  netloc_chars := h.netloc_chars
  netloc_checked := h.netloc_checked
  path_head := h.path_head
  path_chars := h.path_chars
  query_chars hmem := (hquery _ hmem).2 rfl
  safe := by
    intro part hpart c hc
    simp only [withQuery, List.mem_cons, List.not_mem_nil, or_false] at hpart
    rcases hpart with rfl | rfl | rfl | rfl
    · exact h.safe _ (by simp) c hc
    · exact h.safe _ (by simp) c hc
    · have hrange := (hquery c hc).1
      simp [isUnsafe]
      omega
    · cases hc

lemma Served.withQuery (h : Served L r) (query : Str) : Served L (withQuery r query) :=
  ⟨h.scheme, h.hostname⟩

lemma Local.withQuery (h : Local L r) (query : Str) : Local L (withQuery r query) :=
  ⟨h.toServed.withQuery query, h.user, h.loopback⟩

variable {value quoted : Str}

lemma urlencode_activation (h : quotePlus value = some quoted) :
    urlencode [(activation, [value])] = some (activationQuery quoted) := by
  have hname : quotePlus activation = some activation := by decide
  simp only [urlencode, quotePairs, List.mapM_cons, List.mapM_nil, hname, h]
  change some (activation ++ '='.toNat :: quoted ++ []) = some (activationQuery quoted)
  rw [List.append_nil]
  rfl

/-- The token is read back. -/
lemma parseQs_activation (h : quotePlus value = some quoted) :
    parseQs (activationQuery quoted) = [(activation, [value])] := by
  rw [parseQs, parseQsl_urlencode (urlencode_activation h)]
  rfl

lemma encodeQuery_activation (h : quotePlus value = some quoted) :
    encodeQuery [(activation, [value])] = .ok (activationQuery quoted) := by
  rw [encodeQuery, urlencode_activation h]

lemma quoted_of_encoded {encoded : Str} (h : encodeQuery [(activation, [value])] = .ok encoded) :
    ∃ quoted, quotePlus value = some quoted ∧ encoded = activationQuery quoted := by
  cases hquoted : quotePlus value with
  | none =>
    have hnone : urlencode [(activation, [value])] = none := by
      have hname : quotePlus activation = some activation := by decide
      simp only [urlencode, quotePairs, List.mapM_cons, hname, hquoted]
      rfl
    rw [encodeQuery, hnone] at h
    cases h
  | some quoted =>
    rw [encodeQuery_activation hquoted] at h
    cases h
    exact ⟨quoted, rfl, rfl⟩

/-- A URL with a token is split into the parts it was made of. -/
lemma urlsplit_activation (hr : Regular L r) (h : quotePlus value = some quoted) :
    urlsplit L (urlunsplit (withQuery r (activationQuery quoted))) =
      .ok (withQuery r (activationQuery quoted)) :=
  urlsplit_urlunsplit (regular_withQuery hr (urlencode_chars (urlencode_activation h)))

lemma urlunsplit_activation (hr : Regular L r) (h : quotePlus value = some quoted) :
    urlunsplit (withQuery r (activationQuery quoted)) =
      r.scheme ++ str "://" ++ r.netloc ++ r.path ++ str "?activation=" ++ quoted := by
  rw [urlunsplit_regular (regular_withQuery hr (urlencode_chars (urlencode_activation h)))]
  have hjoin : joinPart '?'.toNat (activationQuery quoted) = str "?activation=" ++ quoted := rfl
  have hnone : joinPart '#'.toNat (withQuery r (activationQuery quoted)).fragment = [] := rfl
  have hcolon : str "://" = ':'.toNat :: str "//" := rfl
  simp only [withQuery, hjoin, hcolon] at hnone ⊢
  simp only [hnone, List.append_assoc, List.append_nil, List.cons_append]

/-- What the check of a URL goes through when it succeeds. -/
structure Passes (L : Library) (candidate expected : Str) (c e : SplitResult) (value : Str) :
    Prop where
  candidate : urlsplit L candidate = .ok c
  isLocal : Local L c
  expected : urlsplit L expected = .ok e
  served : Served L e
  same : (c.scheme, c.netloc, c.path) = (e.scheme, e.netloc, e.path)
  fragment : c.fragment = []
  names : parseQs c.query ≠ [] ∧ ∀ item ∈ parseQs c.query, item.1 = activation
  values : (parseQs c.query).lookup activation = some [value]
  nonempty : value ≠ []

variable {candidate expected result : Str}

lemma validated_of_passes {c e : SplitResult} (h : Passes L candidate expected c e value)
    (hquoted : quotePlus value = some quoted) :
    validateActivationLoopbackUrl L candidate expected =
      .ok (urlunsplit (withQuery c (activationQuery quoted))) := by
  unfold validateActivationLoopbackUrl
  refine bind_eq_ok.mpr ⟨c, parseLoopbackUrl_eq_ok.mpr ⟨h.candidate, h.isLocal.toServed⟩, ?_⟩
  refine bind_eq_ok.mpr ⟨e, parseLoopbackUrl_eq_ok.mpr ⟨h.expected, h.served⟩, ?_⟩
  refine require_bind_iff.mpr ⟨h.same, ?_⟩
  refine require_bind_iff.mpr ⟨h.fragment, ?_⟩
  refine require_bind_iff.mpr ⟨h.isLocal.user, ?_⟩
  refine require_bind_iff.mpr ⟨h.isLocal.loopback, ?_⟩
  refine require_bind_iff.mpr ⟨h.names, ?_⟩
  simp only [h.values, Option.getD_some]
  refine require_bind_iff.mpr ⟨⟨rfl, by simpa using h.nonempty⟩, ?_⟩
  exact bind_eq_ok.mpr ⟨_, encodeQuery_activation hquoted, rfl⟩

lemma passes_of_validated (h : validateActivationLoopbackUrl L candidate expected = .ok result) :
    ∃ c e value quoted, Passes L candidate expected c e value ∧ quotePlus value = some quoted ∧
      result = urlunsplit (withQuery c (activationQuery quoted)) := by
  obtain ⟨c, hc, h⟩ := bind_eq_ok.mp h
  obtain ⟨e, he, h⟩ := bind_eq_ok.mp h
  obtain ⟨hsame, h⟩ := require_bind_iff.mp h
  obtain ⟨hfragment, h⟩ := require_bind_iff.mp h
  obtain ⟨huser, h⟩ := require_bind_iff.mp h
  obtain ⟨hloopback, h⟩ := require_bind_iff.mp h
  obtain ⟨hnames, h⟩ := require_bind_iff.mp h
  obtain ⟨hone, h⟩ := require_bind_iff.mp h
  obtain ⟨encoded, hencoded, h⟩ := bind_eq_ok.mp h
  cases h
  obtain ⟨hc, hserved⟩ := parseLoopbackUrl_eq_ok.mp hc
  obtain ⟨he, heserved⟩ := parseLoopbackUrl_eq_ok.mp he
  obtain ⟨value, hvalue⟩ := List.length_eq_one_iff.mp hone.1
  have hvalues : (parseQs c.query).lookup activation = some [value] := by
    cases hlookup : (parseQs c.query).lookup activation with
    | none =>
      rw [hlookup] at hvalue
      cases hvalue
    | some values =>
      rw [hlookup, Option.getD_some] at hvalue
      rw [hvalue]
  rw [hvalue] at hone hencoded
  obtain ⟨quoted, hquoted, rfl⟩ := quoted_of_encoded hencoded
  refine ⟨c, e, value, quoted, ?_, hquoted, rfl⟩
  exact ⟨hc, ⟨hserved, huser, hloopback⟩, he, heserved, hsame, hfragment, hnames, hvalues,
    by simpa using hone.2⟩

/-! ### Round trip and confinement -/

/-- What is let through is the configured URL with one token, and is let through again. -/
structure Confined (L : Library) (candidate expected result : Str) (c base : SplitResult)
    (value quoted : Str) : Prop where
  candidate_parts : urlsplit L candidate = .ok c
  expected_parts : urlsplit L expected = .ok base
  token : (parseQs c.query).lookup activation = some [value]
  nonempty : value ≠ []
  encoded : quotePlus value = some quoted
  text : result =
    base.scheme ++ str "://" ++ base.netloc ++ base.path ++ str "?activation=" ++ quoted
  parts : urlsplit L result =
    .ok ⟨base.scheme, base.netloc, base.path, str "activation=" ++ quoted, []⟩
  query : parseQs (str "activation=" ++ quoted) = [(str "activation", [value])]
  again : validateActivationLoopbackUrl L result expected = .ok result

lemma confined_of_passes {c e : SplitResult} (h : Passes L candidate expected c e value)
    (hquoted : quotePlus value = some quoted) :
    Confined L candidate expected (urlunsplit (withQuery c (activationQuery quoted))) c e value
      quoted := by
  have hregular := h.isLocal.toServed.regular h.candidate
  have hparts := urlsplit_activation hregular hquoted
  have hsame : c.scheme = e.scheme ∧ c.netloc = e.netloc ∧ c.path = e.path := by
    simpa using h.same
  obtain ⟨hscheme, hnetloc, hpath⟩ := hsame
  have hquery := parseQs_activation hquoted
  have hagain : Passes L (urlunsplit (withQuery c (activationQuery quoted))) expected
      (withQuery c (activationQuery quoted)) e value := by
    refine ⟨hparts, h.isLocal.withQuery _, h.expected, h.served, h.same, rfl, ?_, ?_, h.nonempty⟩
    · rw [withQuery, hquery]
      simp
    · rw [withQuery, hquery]
      simp
  have hvalidated := validated_of_passes hagain hquoted
  refine ⟨h.candidate, h.expected, h.values, h.nonempty, hquoted, ?_, ?_, hquery, hvalidated⟩
  · rw [urlunsplit_activation hregular hquoted, hscheme, hnetloc, hpath]
  · rw [hparts, withQuery, hscheme, hnetloc, hpath]
    rfl

/-- The controller and the launcher make the same URL of an accepted one and a token; it is let
through as it is, and its parameter is the token. -/
structure RoundTrip (L : Library) (url base token made : Str) (parts : SplitResult) : Prop where
  appended : appendActivationQuery L url token = .ok made
  built : buildActivationLoopbackUrl L base token = .ok made
  builtDirectly : buildActivationLoopbackUrl L url token = .ok made
  validated : validateActivationLoopbackUrl L made base = .ok made
  split : urlsplit L made = .ok parts
  query : parseQs parts.query = [(str "activation", [token])]

variable {url base token : Str}

lemma accepted_spec (h : validateLoopbackBaseUrl L url = .ok base) :
    ∃ r, urlsplit L url = .ok r ∧ Local L r ∧ r.query = [] ∧ r.fragment = [] ∧
      base = urlunsplit (withQuery r []) := by
  obtain ⟨r, hr, h⟩ := bind_eq_ok.mp h
  obtain ⟨hquery, h⟩ := require_bind_iff.mp h
  obtain ⟨hfragment, h⟩ := require_bind_iff.mp h
  obtain ⟨huser, h⟩ := require_bind_iff.mp h
  obtain ⟨hloopback, h⟩ := require_bind_iff.mp h
  cases h
  obtain ⟨hsplit, hserved⟩ := parseLoopbackUrl_eq_ok.mp hr
  exact ⟨r, hsplit, ⟨hserved, huser, hloopback⟩, hquery, hfragment, rfl⟩

lemma built_of_split (hsplit : urlsplit L url = .ok r) (hquery : r.query = [])
    (hquoted : quotePlus token = some quoted) :
    buildActivationLoopbackUrl L url token =
      .ok (urlunsplit (withQuery r (activationQuery quoted))) := by
  refine bind_eq_ok.mpr ⟨r, split_eq_ok.mpr hsplit, ?_⟩
  rw [hquery]
  exact bind_eq_ok.mpr ⟨_, encodeQuery_activation hquoted, rfl⟩

lemma roundTrip_of_accepted (hbase : validateLoopbackBaseUrl L url = .ok base) (htoken : token ≠ [])
    (hquoted : quotePlus token = some quoted) :
    ∃ made parts, RoundTrip L url base token made parts := by
  obtain ⟨r, hsplit, hlocal, hquery, hfragment, rfl⟩ := accepted_spec hbase
  have hregular := hlocal.toServed.regular hsplit
  have hplain : urlsplit L (urlunsplit (withQuery r [])) = .ok (withQuery r []) :=
    urlsplit_urlunsplit (regular_withQuery hregular fun c hc => absurd hc List.not_mem_nil)
  have hparts := urlsplit_activation hregular hquoted
  have hread := parseQs_activation hquoted
  have hpasses : Passes L (urlunsplit (withQuery r (activationQuery quoted)))
      (urlunsplit (withQuery r [])) (withQuery r (activationQuery quoted)) (withQuery r [])
      token := by
    have hserved := hlocal.toServed.withQuery []
    refine ⟨hparts, hlocal.withQuery _, hplain, hserved, rfl, rfl, ?_, ?_, htoken⟩
    · rw [withQuery, hread]
      simp
    · rw [withQuery, hread]
      simp
  have hbuilt := built_of_split hplain rfl hquoted
  have hdirectly := built_of_split hsplit hquery hquoted
  have hvalidated := validated_of_passes hpasses hquoted
  refine ⟨_, _, ?_, hbuilt, hdirectly, hvalidated, hparts, hread⟩
  refine bind_eq_ok.mpr ⟨r, split_eq_ok.mpr hsplit, ?_⟩
  rw [hquery, hfragment]
  exact bind_eq_ok.mpr ⟨_, encodeQuery_activation hquoted, rfl⟩

/-- A token that can be encoded makes a URL that is let through with it, and whatever is let through
is the configured URL with one token. -/
theorem activation_url_confined (L : Library) :
    (∀ url base token, validateLoopbackBaseUrl L url = .ok base → token ≠ [] →
      encode token ≠ none → ∃ made parts, RoundTrip L url base token made parts) ∧
    (∀ candidate expected result,
      validateActivationLoopbackUrl L candidate expected = .ok result →
        ∃ c base value quoted, Confined L candidate expected result c base value quoted) := by
  refine ⟨fun url base token hbase htoken hencode => ?_, fun candidate expected result h => ?_⟩
  · obtain ⟨bs, hbs⟩ := Option.ne_none_iff_exists'.mp hencode
    have hquoted : quotePlus token = some (bs.flatMap quoteOctet) := by
      rw [quotePlus, hbs, Option.map_some]
    exact roundTrip_of_accepted hbase htoken hquoted
  · obtain ⟨c, e, value, quoted, hpasses, hquoted, rfl⟩ := passes_of_validated h
    exact ⟨c, e, value, quoted, confined_of_passes hpasses hquoted⟩

/-- A library that knows the letters of ASCII and refuses nothing. -/
def asciiLibrary : Library := ⟨fun _ => none, fun _ => none, lowerAscii⟩

/-- An accepted URL in capitals with a token that needs quoting, and a candidate whose parameter has
a name that is quoted without need. -/
theorem activation_url_confined_ascii :
    (∃ made parts, RoundTrip asciiLibrary (str "HTTP://LOCALHOST:8765/voice?#")
      (str "http://LOCALHOST:8765/voice") (str "a b&ü") made parts) ∧
    ∃ c base value quoted, Confined asciiLibrary
      (str "http://LOCALHOST:8765/voice?activ%61tion=a%20b%26%C3%BC")
      (str "http://LOCALHOST:8765/voice")
      (str "http://LOCALHOST:8765/voice?activation=a+b%26%C3%BC")
      c base value quoted := by
  have hbase : validateLoopbackBaseUrl asciiLibrary (str "HTTP://LOCALHOST:8765/voice?#") =
      .ok (str "http://LOCALHOST:8765/voice") := by decide +kernel
  have hcandidate : validateActivationLoopbackUrl asciiLibrary
      (str "http://LOCALHOST:8765/voice?activ%61tion=a%20b%26%C3%BC")
      (str "http://LOCALHOST:8765/voice") =
        .ok (str "http://LOCALHOST:8765/voice?activation=a+b%26%C3%BC") := by decide +kernel
  exact ⟨(activation_url_confined asciiLibrary).1 _ _ _ hbase (by decide) (by decide),
    (activation_url_confined asciiLibrary).2 _ _ _ hcandidate⟩

end HermesRealtime.ActivationUrls
