import OnlineJudge.Common.Decimal
import OnlineJudge.Library.Separators

/-!
# The path of a request

Percent-encodings, and what is assumed of nginx, which decodes and normalizes the path of a request
before the Lua code sees it as `ngx.var.uri`.

## Main definitions

* `percentDecode`, `unescapeUri`: a decoding that refuses malformed encodings, and
  `ngx.unescape_uri`.
* `NginxUri`: the path that the Lua code sees, and the segments of the raw path that are left in it.

## Main results

* `unescapeUri_eq_self_iff`: a text that `ngx.unescape_uri` leaves as it is.
* `not_mem_percentDecode`: a byte that occurs in a text neither plainly nor encoded does not occur
  in the decoded text.
-/

namespace OnlineJudge.Gateway

open Option List

/-! ## Percent-encodings -/

/-- The byte that two digits stand for after `%`. -/
def hexPair? (high low : UInt8) : Option UInt8 :=
  (hexValue? high).bind fun first => (hexValue? low).map fun second => first * 16 + second

/-- Percent-decoding; `none` where an encoding is malformed. -/
def percentDecode : Bytes → Option Bytes
  | [] => some []
  | c :: rest =>
    if c = 37 then
      match rest with
      | high :: low :: rest =>
        (hexPair? high low).bind fun value => (percentDecode rest).map (value :: ·)
      | _ => none
    else (percentDecode rest).map (c :: ·)

/-- `ngx.unescape_uri`: `+` becomes a space, and a malformed encoding stays as it is. -/
def unescapeUri : Bytes → Bytes
  | [] => []
  | c :: rest =>
    if c = 43 then 32 :: unescapeUri rest
    else if c = 37 then
      match rest with
      | high :: low :: rest' =>
        match hexPair? high low with
        | some value => value :: unescapeUri rest'
        | none => 37 :: unescapeUri (high :: low :: rest')
      | rest => 37 :: unescapeUri rest
    else c :: unescapeUri rest

/-- Neither `+` nor `%` with two hexadecimal digits occurs. -/
def isPlain : Bytes → Bool
  | [] => true
  | c :: rest =>
    c ≠ 43 &&
      (c ≠ 37 ||
        match rest with
        | high :: low :: _ => (hexPair? high low).isNone
        | _ => true) &&
      isPlain rest

theorem length_unescapeUri_le : ∀ encoded : Bytes, (unescapeUri encoded).length ≤ encoded.length
  | [] => le_rfl
  | c :: rest => by
      have tail := length_unescapeUri_le rest
      unfold unescapeUri
      split
      · simpa using tail
      split
      · split
        next high low rest' =>
          split
          · have shorter := length_unescapeUri_le rest'
            simp only [length_cons]
            omega
          · simpa using tail
        · simpa using tail
      · simpa using tail

/-- `ngx.unescape_uri` changes a text unless there is nothing to decode in it. -/
theorem unescapeUri_eq_self_iff : ∀ encoded : Bytes,
    unescapeUri encoded = encoded ↔ isPlain encoded = true
  | [] => by simp [unescapeUri, isPlain]
  | c :: rest => by
      have tail := unescapeUri_eq_self_iff rest
      unfold unescapeUri isPlain
      by_cases plus : c = 43
      · subst plus
        simp
      by_cases percent : c = 37
      · subst percent
        match rest, tail with
        | [], _ => simp [unescapeUri, isPlain]
        | [high], tail => simpa using tail
        | high :: low :: rest', tail =>
          cases pair : hexPair? high low with
          | none => simpa [pair] using tail
          | some value =>
            -- two bytes are lost here
            have shorter := length_unescapeUri_le rest'
            have different : value :: unescapeUri rest' ≠ 37 :: high :: low :: rest' := by
              intro same
              have lengths := congrArg List.length same
              simp only [length_cons] at lengths
              omega
            simp [pair, different]
      · simpa [plus, percent] using tail

/-! ## The bytes of a decoded text -/

def NotEncoded (value : UInt8) (path : Bytes) : Prop :=
  ∀ high low, hexPair? high low = some value → ¬ [37, high, low] <:+: path

variable {path : Bytes} {value low high : UInt8}

theorem NotEncoded.mono {part : Bytes} (absent : NotEncoded value path) (inside : part <:+: path) :
    NotEncoded value part := fun high low pair found =>
  absent high low pair (found.trans inside)

theorem not_mem_percentDecode : ∀ {path decoded : Bytes},
    percentDecode path = some decoded → value ∉ path → NotEncoded value path → value ∉ decoded
  | [], decoded, decodes, absent, _ => by
      cases decodes
      exact absent
  | c :: rest, decoded, decodes, absent, notEncoded => by
      rw [mem_cons, not_or] at absent
      unfold percentDecode at decodes
      split at decodes
      next percent =>
        split at decodes
        next high low rest =>
          obtain ⟨byte, pair, decodes⟩ := bind_eq_some_iff.mp decodes
          obtain ⟨tail, tailDecodes, rfl⟩ := map_eq_some_iff.mp decodes
          have later : rest <:+: c :: high :: low :: rest := ⟨[c, high, low], [], by simp⟩
          have notHere : value ≠ byte := by
            rintro rfl
            exact notEncoded high low pair ⟨[], rest, by simp [percent]⟩
          rw [mem_cons, not_or]
          refine ⟨notHere, not_mem_percentDecode tailDecodes ?_ (notEncoded.mono later)⟩
          exact fun mem => absent.2 (mem_cons_of_mem _ (mem_cons_of_mem _ mem))
        next => cases decodes
      next =>
        obtain ⟨tail, tailDecodes, rfl⟩ := map_eq_some_iff.mp decodes
        have later : rest <:+: c :: rest := ⟨[c], [], by simp⟩
        rw [mem_cons, not_or]
        exact ⟨absent.1, not_mem_percentDecode tailDecodes absent.2 (notEncoded.mono later)⟩

theorem encoding_mem (pair : hexPair? high low = some value) (special : value = 47 ∨ value = 92) :
    [37, high, low] ∈ [text "%2f", text "%2F", text "%5c", text "%5C"] := by
  have all : ∀ n : Fin 256, hexValue? (.ofNat n) ≠ none → ∀ m : Fin 256,
      hexPair? (.ofNat n) (.ofNat m) ∈ [some 47, some 92] →
        [37, .ofNat n, .ofNat m] ∈ [text "%2f", text "%2F", text "%5c", text "%5C"] := by
    decide +kernel
  obtain ⟨first, digit, -⟩ := bind_eq_some_iff.mp pair
  have here := all ⟨_, high.toNat_lt⟩ (by simp [digit]) ⟨_, low.toNat_lt⟩
  simp only [UInt8.ofNat_toNat, pair] at here
  refine here ?_
  rcases special with rfl | rfl <;> simp

/-! ## Segments -/

def decodeSegment (raw : Bytes) : Bytes := (percentDecode raw).getD []

def rawPath (requestUri : Bytes) : Bytes := requestUri.takeWhile fun c => c ≠ 63 && c ≠ 35

def joinSegments (segments : List Bytes) : Bytes := segments.flatMap (47 :: ·)

theorem splitOn_joinSegments {segments : List Bytes} (plain : ∀ segment ∈ segments, 47 ∉ segment) :
    (joinSegments segments).splitOn 47 = [] :: segments := by
  suffices after : ∀ front : Bytes, 47 ∉ front →
      (front ++ joinSegments segments).splitOn 47 = front :: segments from after [] not_mem_nil
  induction segments with
  | nil => exact fun front frontPlain => by rw [joinSegments, flatMap_nil, append_nil,
      splitOn_eq_singleton frontPlain]
  | cons segment segments ih =>
    obtain ⟨first, later⟩ := forall_mem_cons.mp plain
    intro front frontPlain
    rw [joinSegments, flatMap_cons, cons_append, splitOn_append_cons_self_of_not_mem frontPlain]
    exact congrArg _ (ih later segment first)

/-- What is assumed of nginx: `uri` consists of segments of the raw path, each decoded once.  Which
segments are left is up to the normalization, which merges slashes and resolves `.` and `..`.  A
path with an encoded slash, of which this is not true, is refused by the request policy. -/
structure NginxUri (requestUri uri : Bytes) (raws : List Bytes) : Prop where
  left : ∃ all, rawPath requestUri = joinSegments all ∧ raws.Sublist all
  slashFree : ∀ raw ∈ raws, 47 ∉ raw
  decodes : ∀ raw ∈ raws, percentDecode raw = some (decodeSegment raw)
  joined : uri = joinSegments (raws.map decodeSegment)

theorem NginxUri.inside {requestUri uri raw : Bytes} {raws : List Bytes}
    (nginx : NginxUri requestUri uri raws) (mem : raw ∈ raws) : raw <:+: requestUri := by
  obtain ⟨all, path, left⟩ := nginx.left
  have inAll : 47 :: raw <:+: rawPath requestUri := by
    rw [path, joinSegments, flatMap_def]
    exact infix_of_mem_flatten (mem_map_of_mem (left.subset mem))
  have front : rawPath requestUri <+: requestUri := takeWhile_prefix _
  exact (suffix_cons 47 raw).isInfix.trans (inAll.trans front.isInfix)

end OnlineJudge.Gateway
