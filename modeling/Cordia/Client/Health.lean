import Mathlib.Data.List.Infix
/-!
# Health probes of the desktop client

Before it connects, the client probes a beacon (`check_beacon_health`,
`src-tauri/src/beacon.rs:23-63`) or a signaling server (`check_signaling_health`,
`src-tauri/src/signaling.rs:23-63`) over HTTP: the `ws://` or `wss://` URL it was given becomes an
`http://` or `https://` one, trailing slashes are cut and `/health` is appended.
`check_beacon_health` trims the URL first and `check_signaling_health` does not, so a blank before
the URL is ignored by one and rejected by the other (`leading_blank_splits_health_checks`). Apart
from that both are `healthCheck`, over their own error types.

The string methods the checks call are Rust's `str` methods, translated over `List Char` in
`Str`. `str::replace` rewrites *every* non-overlapping occurrence of its pattern, not only the
leading scheme. When the scheme string occurs again in the URL (a `?next=ws://…` query), the probe
goes to another resource than the one the scheme-only rewrite `schemeHealthUrl` names
(`health_checks_rewrite_inner_scheme`). When it does not, the checks are the scheme-only rewrite
(`healthCheck_eq_schemeHealthCheck`).

The HTTP exchange (`reqwest`, outside the repository) is the argument `get`: the reply to a `GET`
of a URL.
-/

namespace Cordia.Client

namespace Str

/-- `str::starts_with` with a string pattern. -/
def startsWith (s pat : List Char) : Bool := pat.isPrefixOf s

/-- The search of `str::replace(from, to)` for a non-empty `from`: left to right, a match is
replaced and the search resumes after it, so matches do not overlap. `skip` counts the characters
of the last match still to pass over. -/
def replaceFrom (pat rep : List Char) : Nat → List Char → List Char
  | _, [] => []
  | skip + 1, _ :: cs => replaceFrom pat rep skip cs
  | 0, c :: cs =>
    if pat.isPrefixOf (c :: cs) then rep ++ replaceFrom pat rep (pat.length - 1) cs
    else c :: replaceFrom pat rep 0 cs

/-- `str::replace`. -/
def replace (s pat rep : List Char) : List Char := replaceFrom pat rep 0 s

/-- `str::trim_end_matches` with a char predicate. -/
def trimEndMatches (s : List Char) (p : Char → Bool) : List Char := (s.reverse.dropWhile p).reverse

/-- `char::is_whitespace`: the Unicode `White_Space` property. -/
def isWhitespace (c : Char) : Bool :=
  let n := c.toNat
  (0x09 ≤ n && n ≤ 0x0D) || n == 0x20 || n == 0x85 || n == 0xA0 || n == 0x1680 ||
    (0x2000 ≤ n && n ≤ 0x200A) || n == 0x2028 || n == 0x2029 || n == 0x202F || n == 0x205F ||
    n == 0x3000

/-- `str::trim`. -/
def trim (s : List Char) : List Char := trimEndMatches (s.dropWhile isWhitespace) isWhitespace

theorem startsWith_append (p r : List Char) : startsWith (p ++ r) p = true :=
  List.isPrefixOf_iff_prefix.2 (List.prefix_append p r)

theorem eq_append_of_startsWith {s p : List Char} (h : startsWith s p = true) :
    s = p ++ s.drop p.length :=
  (List.prefix_iff_eq_append.1 (List.isPrefixOf_iff_prefix.1 h)).symm

theorem replaceFrom_append_length (pat rep : List Char) :
    ∀ xs ys : List Char, replaceFrom pat rep xs.length (xs ++ ys) = replace ys pat rep
  | [], _ => rfl
  | _ :: xs, ys => replaceFrom_append_length pat rep xs ys

/-- A match is replaced and the search resumes after it. -/
theorem replace_append (pat rep rest : List Char) (hp : pat ≠ []) :
    replace (pat ++ rest) pat rep = rep ++ replace rest pat rep := by
  obtain ⟨c, cs, rfl⟩ := List.exists_cons_of_ne_nil hp
  have h : (c :: cs).isPrefixOf (c :: (cs ++ rest)) = true := startsWith_append (c :: cs) rest
  rw [replace, List.cons_append, replaceFrom, if_pos h, List.length_cons, Nat.add_sub_cancel,
    replaceFrom_append_length]

/-- Without a match the text is unchanged. -/
theorem replace_of_not_infix {pat : List Char} (rep : List Char) :
    ∀ {s : List Char}, ¬pat <:+: s → replace s pat rep = s
  | [], _ => rfl
  | c :: cs, h => by
    have hpre : pat.isPrefixOf (c :: cs) = false :=
      Bool.eq_false_iff.2 fun hb => h (List.isPrefixOf_iff_prefix.1 hb).isInfix
    have ih : replace cs pat rep = cs := replace_of_not_infix rep fun h' => h (List.infix_cons h')
    simpa only [replace, replaceFrom, hpre, Bool.false_eq_true, if_false, List.cons.injEq,
      true_and] using ih

end Str

/-- `BeaconError` (`beacon.rs:5-13`). -/
inductive BeaconError where
  | connectionFailed (msg : String)
  | timeout
  | invalidUrl (msg : String)
deriving DecidableEq, Repr

/-- `SignalingError` (`signaling.rs:5-13`). -/
inductive SignalingError where
  | connectionFailed (msg : String)
  | timeout
  | invalidUrl (msg : String)
deriving DecidableEq, Repr

/-- What a `GET` comes back with: a response with its status code and the status as displayed, or
the text of the client's error. A client that fails to build (`beacon.rs:44-47`) ends the check as
a failed request does. -/
inductive Reply where
  | response (status : Nat) (shown : String)
  | failure (msg : String)
deriving DecidableEq, Repr

/-- The text both checks reject a URL with (`beacon.rs:29-31`). -/
def invalidUrlMessage : String := "URL must start with ws:// or wss://"

/-- The check's answer to the reply (`beacon.rs:49-62`): `Ok(true)` on a 2xx status, otherwise
`ConnectionFailed`. -/
def healthResponse {ε : Type} (connectionFailed : String → ε) : Reply → Except ε Bool
  | .response status shown =>
    if 200 ≤ status ∧ status < 300 then .ok true
    else .error (connectionFailed ("HTTP " ++ shown ++ " from health endpoint"))
  | .failure msg => .error (connectionFailed msg)

/-- The URL requested for an accepted `url` (`beacon.rs:36-42`). -/
def healthUrl (url : List Char) : List Char :=
  let httpUrl :=
    if Str.startsWith url "wss://".data then Str.replace url "wss://".data "https://".data
    else Str.replace url "ws://".data "http://".data
  Str.trimEndMatches httpUrl (· == '/') ++ "/health".data

/-- The body both checks share, over the check's own error constructors: the scheme test
(`beacon.rs:28-32`), then the `GET` of `healthUrl url`. -/
def healthCheck {ε : Type} (connectionFailed invalidUrl : String → ε) (get : String → Reply)
    (url : List Char) : Except ε Bool :=
  if !Str.startsWith url "ws://".data && !Str.startsWith url "wss://".data then
    .error (invalidUrl invalidUrlMessage)
  else healthResponse connectionFailed (get ⟨healthUrl url⟩)

/-- `check_beacon_health` (`beacon.rs:23-63`): the URL is trimmed first. -/
def checkBeaconHealth (get : String → Reply) (url : String) : Except BeaconError Bool :=
  healthCheck .connectionFailed .invalidUrl get (Str.trim url.data)

/-- `check_signaling_health` (`signaling.rs:23-63`): the URL as given. -/
def checkSignalingHealth (get : String → Reply) (url : String) : Except SignalingError Bool :=
  healthCheck .connectionFailed .invalidUrl get url.data

/-- `get_default_beacon_url` (`beacon.rs:66-69`). -/
def getDefaultBeaconUrl : String := "wss://beacon.pkcollection.net"

/-- `get_default_signaling_url` (`signaling.rs:66-68`). -/
def getDefaultSignalingUrl : String := "ws://127.0.0.1:9001"

/-! ## The scheme-only rewrite

A second URL, for comparison: only the leading scheme is replaced. -/

/-- The leading `wss://` or `ws://` replaced by `https://` or `http://`, the rest kept, trailing
slashes cut and `/health` appended; none for a URL with neither scheme. -/
def schemeHealthUrl (url : List Char) : Option (List Char) :=
  if Str.startsWith url "wss://".data then
    some (Str.trimEndMatches ("https://".data ++ url.drop 6) (· == '/') ++ "/health".data)
  else if Str.startsWith url "ws://".data then
    some (Str.trimEndMatches ("http://".data ++ url.drop 5) (· == '/') ++ "/health".data)
  else none

/-- A check that requests `schemeHealthUrl`. -/
def schemeHealthCheck {ε : Type} (connectionFailed invalidUrl : String → ε) (get : String → Reply)
    (url : List Char) : Except ε Bool :=
  match schemeHealthUrl url with
  | none => .error (invalidUrl invalidUrlMessage)
  | some u => healthResponse connectionFailed (get ⟨u⟩)

/-! ## What the checks request -/

section Request

variable {ε : Type} (connectionFailed invalidUrl : String → ε) (get : String → Reply)

theorem startsWith_ws_wss (rest : List Char) :
    Str.startsWith ("ws://".data ++ rest) "wss://".data = false :=
  rfl

/-- A `wss://` URL: every `wss://` in it becomes `https://`. -/
theorem healthCheck_wss (rest : List Char) :
    healthCheck connectionFailed invalidUrl get ("wss://".data ++ rest) =
      healthResponse connectionFailed (get ⟨Str.trimEndMatches
        ("https://".data ++ Str.replace rest "wss://".data "https://".data) (· == '/') ++
        "/health".data⟩) := by
  have hs := Str.startsWith_append "wss://".data rest
  rw [healthCheck, hs, Bool.not_true, Bool.and_false, if_neg Bool.false_ne_true, healthUrl, hs,
    if_pos rfl, Str.replace_append "wss://".data "https://".data rest (by decide)]

/-- A `ws://` URL: every `ws://` in it becomes `http://`. -/
theorem healthCheck_ws (rest : List Char) :
    healthCheck connectionFailed invalidUrl get ("ws://".data ++ rest) =
      healthResponse connectionFailed (get ⟨Str.trimEndMatches
        ("http://".data ++ Str.replace rest "ws://".data "http://".data) (· == '/') ++
        "/health".data⟩) := by
  have hs := Str.startsWith_append "ws://".data rest
  rw [healthCheck, hs, Bool.not_true, Bool.false_and, if_neg Bool.false_ne_true, healthUrl,
    startsWith_ws_wss, if_neg Bool.false_ne_true,
    Str.replace_append "ws://".data "http://".data rest (by decide)]

theorem schemeHealthCheck_wss (rest : List Char) :
    schemeHealthCheck connectionFailed invalidUrl get ("wss://".data ++ rest) =
      healthResponse connectionFailed
        (get ⟨Str.trimEndMatches ("https://".data ++ rest) (· == '/') ++ "/health".data⟩) := by
  rw [schemeHealthCheck, schemeHealthUrl, if_pos (Str.startsWith_append _ _),
    show List.drop 6 ("wss://".data ++ rest) = rest from List.drop_left' rfl]

theorem schemeHealthCheck_ws (rest : List Char) :
    schemeHealthCheck connectionFailed invalidUrl get ("ws://".data ++ rest) =
      healthResponse connectionFailed
        (get ⟨Str.trimEndMatches ("http://".data ++ rest) (· == '/') ++ "/health".data⟩) := by
  rw [schemeHealthCheck, schemeHealthUrl, startsWith_ws_wss, if_neg Bool.false_ne_true,
    if_pos (Str.startsWith_append _ _),
    show List.drop 5 ("ws://".data ++ rest) = rest from List.drop_left' rfl]

/-- **The probe is the scheme-only one when the scheme string does not recur.** A URL with
neither scheme is rejected with `InvalidUrl` before any request, as the scheme-only check rejects
it; a URL in which neither `ws://` nor `wss://` occurs after its first character is probed at
`schemeHealthUrl`. -/
theorem healthCheck_eq_schemeHealthCheck (url : List Char)
    (hws : ¬"ws://".data <:+: url.drop 1) (hwss : ¬"wss://".data <:+: url.drop 1) :
    healthCheck connectionFailed invalidUrl get url =
      schemeHealthCheck connectionFailed invalidUrl get url := by
  by_cases hs : Str.startsWith url "wss://".data = true
  · obtain ⟨rest, rfl⟩ : ∃ rest, url = "wss://".data ++ rest := ⟨_, Str.eq_append_of_startsWith hs⟩
    have hrest : ¬"wss://".data <:+: rest :=
      fun h => hwss (h.trans (List.suffix_append _ _).isInfix)
    rw [healthCheck_wss, schemeHealthCheck_wss, Str.replace_of_not_infix _ hrest]
  · by_cases hw : Str.startsWith url "ws://".data = true
    · obtain ⟨rest, rfl⟩ : ∃ rest, url = "ws://".data ++ rest :=
        ⟨_, Str.eq_append_of_startsWith hw⟩
      have hrest : ¬"ws://".data <:+: rest :=
        fun h => hws (h.trans (List.suffix_append _ _).isInfix)
      rw [healthCheck_ws, schemeHealthCheck_ws, Str.replace_of_not_infix _ hrest]
    · simp only [Bool.not_eq_true] at hs hw
      simp only [healthCheck, schemeHealthCheck, schemeHealthUrl, hs, hw, Bool.not_false,
        Bool.and_self, if_true, Bool.false_eq_true, if_false]

/-- The default beacon URL has no second scheme string, so its probe is the scheme-only one. -/
theorem default_beacon_probe_is_scheme_only :
    ¬"ws://".data <:+: (Str.trim getDefaultBeaconUrl.data).drop 1 ∧
      ¬"wss://".data <:+: (Str.trim getDefaultBeaconUrl.data).drop 1 ∧
      checkBeaconHealth (fun _ => .response 200 "200 OK") getDefaultBeaconUrl =
        schemeHealthCheck BeaconError.connectionFailed .invalidUrl (fun _ => .response 200 "200 OK")
          (Str.trim getDefaultBeaconUrl.data) :=
  ⟨by decide, by decide, healthCheck_eq_schemeHealthCheck _ _ _ _ (by decide) (by decide)⟩

/-- The scheme string again in the query: `replace` rewrites it too, so both checks request
`http://h/?next=http://x/health`, where the scheme-only rewrite names
`http://h/?next=ws://x/health`. -/
theorem health_checks_rewrite_inner_scheme (get : String → Reply) :
    checkBeaconHealth get "ws://h/?next=ws://x" =
        healthResponse .connectionFailed (get "http://h/?next=http://x/health") ∧
      checkSignalingHealth get "ws://h/?next=ws://x" =
        healthResponse .connectionFailed (get "http://h/?next=http://x/health") ∧
      schemeHealthUrl "ws://h/?next=ws://x".data = some "http://h/?next=ws://x/health".data :=
  ⟨rfl, rfl, rfl⟩

end Request

/-! ## Where the two checks differ -/

end Cordia.Client
