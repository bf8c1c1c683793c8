import OnlineJudge.Common.Messages

/-!
# What a Docker call leaves of a response

`CurlWriteCallback` keeps at most `limit` bytes of a body, and `ParseMuxStream` returns the frames
of it that are complete.
-/

namespace OnlineJudge.Sandbox

open List

/-! ## The write callback -/

structure CurlOutput where
  data : Bytes := []
  limit : Nat
  limited : Bool := false
  deriving DecidableEq

/-- `CurlWriteCallback`: the output afterwards and the number of bytes it reports
as taken. -/
def curlWriteCallback (output : CurlOutput) (contents : Bytes) : CurlOutput × Nat :=
  if output.data.length + contents.length > output.limit then
    let remaining :=
      if output.limit > output.data.length then output.limit - output.data.length else 0
    ({ output with data := output.data ++ contents.take remaining, limited := true }, 0)
  else ({ output with data := output.data ++ contents }, contents.length)

def receive : CurlOutput → List Bytes → CurlOutput
  | output, [] => output
  | output, contents :: rest =>
    let (next, taken) := curlWriteCallback output contents
    if taken = contents.length then receive next rest else next

structure MuxFrame where
  streamType : UInt8
  payload : Bytes
  deriving DecidableEq

open MuxFrame

def payloadSize (a b c d : UInt8) : Nat :=
  ((a.toNat * 256 + b.toNat) * 256 + c.toNat) * 256 + d.toNat

/-- The loop of `ParseMuxStream`.  Every round takes at least eight bytes, so the
length of the data is enough fuel. -/
def parseFrames : Nat → Bytes → List MuxFrame
  | fuel + 1, type :: _ :: _ :: _ :: a :: b :: c :: d :: rest =>
    if payloadSize a b c d > rest.length then []
    else
      ⟨type, rest.take (payloadSize a b c d)⟩ ::
        parseFrames fuel (rest.drop (payloadSize a b c d))
  | _, _ => []

def parseMuxStream (data : Bytes) : List MuxFrame := parseFrames data.length data

def sizeBytes (size : Nat) : Bytes :=
  [UInt8.ofNat (size / 16777216), UInt8.ofNat (size / 65536), UInt8.ofNat (size / 256),
    UInt8.ofNat size]

def MuxFrame.encode (frame : MuxFrame) : Bytes :=
  frame.streamType :: 0 :: 0 :: 0 :: (sizeBytes frame.payload.length ++ frame.payload)

def MuxFrame.size (frame : MuxFrame) : Nat := 8 + frame.payload.length

def encodeFrames (frames : List MuxFrame) : Bytes := frames.flatMap encode

/-- The frames that lie within the first `n` bytes of a stream. -/
def framesWithin : List MuxFrame → Nat → List MuxFrame
  | [], _ => []
  | frame :: rest, n => if frame.size ≤ n then frame :: framesWithin rest (n - frame.size) else []

theorem MuxFrame.length_encode (frame : MuxFrame) : frame.encode.length = frame.size := by
  simp [encode, size, sizeBytes]
  omega

theorem payloadSize_sizeBytes {size : Nat} (fits : size < UInt32.size) :
    payloadSize (UInt8.ofNat (size / 16777216)) (UInt8.ofNat (size / 65536))
      (UInt8.ofNat (size / 256)) (UInt8.ofNat size) = size := by
  simp only [UInt32.size] at fits
  simp only [payloadSize, UInt8.toNat_ofNat']
  omega

variable {frame : MuxFrame} {frames : List MuxFrame}

theorem parseFrames_encode_append (fits : frame.payload.length < UInt32.size) (fuel : Nat)
    (rest : Bytes) :
    parseFrames (fuel + 1) (frame.encode ++ rest) = frame :: parseFrames fuel rest := by
  simp only [encode, sizeBytes, cons_append, nil_append, parseFrames, payloadSize_sizeBytes fits]
  simp

theorem parseFrames_take_encode (fits : frame.payload.length < UInt32.size) (fuel : Nat) {n : Nat}
    (cut : n < frame.size) :
    parseFrames fuel (frame.encode.take n) = [] := by
  cases fuel with
  | zero => rfl
  | succ fuel =>
    by_cases header : n < 8
    · have short : (frame.encode.take n).length < 8 :=
        Nat.lt_of_le_of_lt (length_take_le n _) header
      unfold parseFrames
      split
      case h_1 shape =>
        rw [shape] at short
        simp only [length_cons] at short
        omega
      case h_2 => rfl
    · obtain ⟨m, rfl⟩ : ∃ m, n = m + 8 := ⟨n - 8, by omega⟩
      simp only [size] at cut
      simp only [encode, sizeBytes, cons_append, nil_append,
        take_succ_cons, parseFrames, payloadSize_sizeBytes fits]
      rw [if_pos]
      simp only [length_take]
      omega

/-- **The parser returns exactly the frames within the bytes it gets.** -/
theorem parseFrames_take (fits : ∀ frame ∈ frames, frame.payload.length < UInt32.size) {fuel : Nat}
    (n : Nat) (enough : ((encodeFrames frames).take n).length ≤ fuel) :
    parseFrames fuel ((encodeFrames frames).take n) = framesWithin frames n := by
  induction frames generalizing fuel n with
  | nil =>
    simp only [encodeFrames, flatMap_nil, take_nil, framesWithin]
    cases fuel <;> rfl
  | cons frame rest ih =>
    have fitsHere := fits frame mem_cons_self
    have fitsLater : ∀ later ∈ rest, later.payload.length < UInt32.size :=
      fun later member => fits later (mem_cons_of_mem _ member)
    have size := frame.length_encode
    simp only [encodeFrames, flatMap_cons] at enough ⊢
    rw [take_append, size] at enough ⊢
    rw [framesWithin]
    by_cases whole : frame.size ≤ n
    · rw [if_pos whole, take_of_length_le (by rw [size]; exact whole)]
      rw [take_of_length_le (by rw [size]; exact whole), length_append, size] at enough
      obtain ⟨fuel, rfl⟩ : ∃ smaller, fuel = smaller + 1 := by
        refine ⟨fuel - 1, ?_⟩
        have : 8 ≤ frame.size := Nat.le_add_right 8 _
        omega
      rw [parseFrames_encode_append fitsHere]
      congr 1
      have : 8 ≤ frame.size := Nat.le_add_right 8 _
      exact ih fitsLater (n - frame.size) (by simp only [encodeFrames]; omega)
    · have cut : n < frame.size := Nat.lt_of_not_le whole
      rw [if_neg whole, show n - frame.size = 0 by omega, take_zero, append_nil]
      exact parseFrames_take_encode fitsHere fuel cut

@[inherit_doc parseFrames_take]
theorem parseMuxStream_take
    (fits : ∀ frame ∈ frames, frame.payload.length < UInt32.size) (n : Nat) :
    parseMuxStream ((encodeFrames frames).take n) = framesWithin frames n :=
  parseFrames_take fits n Nat.le.refl

/-! ## The standard streams -/

def streamOf (streamType : UInt8) (frames : List MuxFrame) : Bytes :=
  (frames.filter (·.streamType = streamType)).flatMap (·.payload)

variable (frames : List MuxFrame)

/-- `result.stdout_str` after the loop over the frames. -/
abbrev stdoutOf : Bytes := streamOf 1 frames

/-- `result.stderr_str` after the loop over the frames. -/
abbrev stderrOf : Bytes := streamOf 2 frames

theorem streamOf_cons (streamType : UInt8) (frame : MuxFrame) (rest : List MuxFrame) :
    streamOf streamType (frame :: rest) =
      (if frame.streamType = streamType then frame.payload else []) ++
        streamOf streamType rest := by
  by_cases mine : frame.streamType = streamType <;> simp [streamOf, mine]

/-- The loop of `Exec` over the frames, which appends to `stdout_str` and `stderr_str`. -/
def separate : List MuxFrame → Bytes → Bytes → Bytes × Bytes
  | [], stdoutStr, stderrStr => (stdoutStr, stderrStr)
  | frame :: rest, stdoutStr, stderrStr =>
    if frame.streamType = 1 then separate rest (stdoutStr ++ frame.payload) stderrStr
    else if frame.streamType = 2 then separate rest stdoutStr (stderrStr ++ frame.payload)
    else separate rest stdoutStr stderrStr

theorem separate_eq (stdoutStr stderrStr : Bytes) :
    separate frames stdoutStr stderrStr =
      (stdoutStr ++ stdoutOf frames, stderrStr ++ stderrOf frames) := by
  induction frames generalizing stdoutStr stderrStr with
  | nil => simp [separate, streamOf]
  | cons frame rest ih =>
    rw [separate, stdoutOf, stderrOf, streamOf_cons, streamOf_cons]
    by_cases out : frame.streamType = 1
    · simp [out, ih]
    · by_cases err : frame.streamType = 2 <;> simp [out, err, ih]

theorem framesWithin_all : framesWithin frames (encodeFrames frames).length = frames := by
  induction frames with
  | nil => rfl
  | cons frame rest ih =>
    rw [encodeFrames, flatMap_cons, length_append, frame.length_encode, framesWithin,
      if_pos (Nat.le_add_right _ _), Nat.add_sub_cancel_left]
    exact congrArg (frame :: ·) ih

/-- **Demultiplexing**: from the first `n` bytes of a stream come the frames within them, and from a
whole stream the payloads of each standard stream. -/
theorem mux_stream_separated (frames : List MuxFrame)
    (fits : ∀ frame ∈ frames, frame.payload.length < UInt32.size) (n : Nat) :
    parseMuxStream ((encodeFrames frames).take n) = framesWithin frames n ∧
      separate (parseMuxStream (encodeFrames frames)) [] [] =
        ((frames.filter (·.streamType = 1)).flatMap (·.payload),
          (frames.filter (·.streamType = 2)).flatMap (·.payload)) := by
  refine ⟨parseMuxStream_take fits n, ?_⟩
  have whole := parseMuxStream_take fits (encodeFrames frames).length
  rw [take_length, framesWithin_all] at whole
  rw [whole]
  exact separate_eq frames [] []

theorem mux_stream_separated_cut :
    parseMuxStream ((encodeFrames [⟨1, [97]⟩, ⟨2, [98, 99]⟩]).take 18) = [⟨1, [97]⟩] ∧
      separate (parseMuxStream (encodeFrames [⟨1, [97]⟩, ⟨2, [98, 99]⟩])) [] [] =
        ([97], [98, 99]) := by
  have fits : ∀ frame ∈ [mk 1 [97], ⟨2, [98, 99]⟩],
      frame.payload.length < UInt32.size := by
    simp [UInt32.size]
  exact mux_stream_separated _ fits 18

end OnlineJudge.Sandbox
