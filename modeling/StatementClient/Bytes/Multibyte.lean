import StatementClient.Bytes.Codec

/-!
# Multibyte decoders

The East Asian encodings read their input one character at a time, and each read looks at the
bytes ahead: a `Step` says what they hold. Either characters that take the first `width` bytes
(at least one), after which the decoder may be in another state (the ISO-2022 encodings switch
character sets); or `width` bytes that form no character; or too few bytes for the character
they begin; or a state the decoder has no rule for.

`runSteps` reads a whole input so and stops at the first fault. Bytes that form no character are
"an illegal multibyte sequence" over their span; a character cut off by the end of the input is
"an incomplete multibyte sequence" over all the bytes left.
-/

namespace StatementClient.Bytes

/-- What a multibyte decoder in state `σ` makes of the bytes ahead. -/
inductive Step (σ : Type) where
  /-- The characters `text`, taking the first `width` bytes, and the state after them. -/
  | emit (text : String) (width : Nat) (next : σ)
  /-- The first `width` bytes form no character. -/
  | illegal (width : Nat)
  /-- The bytes end inside a character. -/
  | incomplete
  /-- The decoder is in a state it has no rule for. -/
  | internal

/-- The step of a decoder without state that reads `text` from `width` bytes, or finds the first
byte illegal when there is no text. -/
def Step.of (text : Option String) (width : Nat) : Step Unit :=
  match text with
  | some t => .emit t width ()
  | none => .illegal 1

/-- The step that reads one character from one byte. -/
def Step.byte (n : Nat) : Step Unit := .emit (Char.ofNat n).toString 1 ()

/-- The step of an encoding that reads ASCII below 0x80 and a pair of bytes otherwise, the pair
being read by `pair`. -/
def pairStep (pair : Nat → Nat → Option String) : List UInt8 → Step Unit
  | [] => .incomplete
  | b :: rest =>
    if b < 0x80 then .byte b.toNat
    else
      match rest with
      | [] => .incomplete
      | c :: _ => .of (pair b.toNat c.toNat) 2

/-- Decodes `bs`, which start at byte `pos` of the input, step by step from state `s`, with the
codec name `name` for faults. -/
def runSteps {σ : Type} (name : String) (step : σ → List UInt8 → Step σ) (s : σ) (pos : Nat)
    (acc : String) (bs : List UInt8) : Except CodecError String :=
  match bs with
  | [] => .ok acc
  | b :: rest =>
    let fault (width : Nat) (reason : Reason) : Except CodecError String :=
      .error (.undecodable
        { codec := name, start := pos, stop := pos + width, firstByte := b, reason := reason })
    match step s (b :: rest) with
    | .emit text width next =>
      if _h : width = 0 then .error .internal
      else runSteps name step next (pos + width) (acc ++ text) ((b :: rest).drop width)
    | .illegal width => fault width .illegalMultibyte
    | .incomplete => fault (rest.length + 1) .incompleteMultibyte
    | .internal => .error .internal
termination_by bs.length
decreasing_by simp only [List.length_drop, List.length_cons]; omega

/-- Decodes bytes with a decoder without state. -/
def decodeStateless (name : String) (step : List UInt8 → Step Unit) (bs : List UInt8) :
    Except CodecError String :=
  runSteps name (fun _ => step) () 0 "" bs

end StatementClient.Bytes
