import RecordGraph.Text.Quoted

/-!
Contract: the percent-decoding of paths.

Owns: reading of percent escapes as bytes, and the characters of bytes.
Does not own: the split of a path into segments.

Bytes that are no UTF-8 stand for one replacement character for each longest part that could have
begun a character.
-/

namespace RecordGraph.Text

/-- The bytes of a text whose escapes stand for bytes. A percent sign without two hexadecimal
digits stands for itself. -/
def percentBytes : List Char → List Nat
  | '%' :: high :: low :: rest =>
      match hexValue? high, hexValue? low with
      | some high, some low => (16 * high + low) :: percentBytes rest
      | _, _ => 37 :: percentBytes (high :: low :: rest)
  | c :: rest => (String.utf8EncodeChar c).map (·.toNat) ++ percentBytes rest
  | [] => []

def replacement : Char := Char.ofNat 0xFFFD

/-- For a byte that leads a character: how many bytes follow it, the range of the first of them,
and the bits that the leading byte contributes. -/
def leading? (byte : Nat) : Option (Nat × (Nat × Nat) × Nat) :=
  if 0xC2 ≤ byte && byte < 0xE0 then some (1, (0x80, 0xBF), byte - 0xC0)
  else if byte = 0xE0 then some (2, (0xA0, 0xBF), 0)
  else if byte = 0xED then some (2, (0x80, 0x9F), 13)
  else if 0xE1 ≤ byte && byte < 0xF0 then some (2, (0x80, 0xBF), byte - 0xE0)
  else if byte = 0xF0 then some (3, (0x90, 0xBF), 0)
  else if 0xF1 ≤ byte && byte < 0xF4 then some (3, (0x80, 0xBF), byte - 0xF0)
  else if byte = 0xF4 then some (3, (0x80, 0x8F), 4)
  else none

/-- The character that a number of following bytes complete, or a replacement, and the bytes after
it. -/
def followers (value : Nat) : (count : Nat) → (range : Nat × Nat) → List Nat → Char × List Nat
  | 0, _, bytes => (Char.ofNat value, bytes)
  | _ + 1, _, [] => (replacement, [])
  | count + 1, range, byte :: rest =>
      if range.1 ≤ byte && byte ≤ range.2 then
        followers (64 * value + (byte - 0x80)) count (0x80, 0xBF) rest
      else (replacement, byte :: rest)

theorem followers_length_le (value count : Nat) (range : Nat × Nat) (bytes : List Nat) :
    (followers value count range bytes).2.length ≤ bytes.length := by
  induction bytes generalizing value count range with
  | nil => cases count <;> simp [followers]
  | cons byte rest ih =>
    cases count with
    | zero => simp [followers]
    | succ count =>
      simp only [followers]
      split
      · exact Nat.le_succ_of_le (ih _ _ _)
      · simp

def charsOfBytes (bytes : List Nat) : List Char :=
  match bytes with
  | [] => []
  | byte :: rest =>
      if byte < 0x80 then Char.ofNat byte :: charsOfBytes rest
      else
        match leading? byte with
        | none => replacement :: charsOfBytes rest
        | some (count, range, value) =>
            let found := followers value count range rest
            found.1 :: charsOfBytes found.2
termination_by bytes.length
decreasing_by
  all_goals simp only [List.length_cons]
  · omega
  · omega
  · exact Nat.lt_succ_of_le (followers_length_le value count range rest)

def percentDecode (text : String) : String :=
  String.ofList (charsOfBytes (percentBytes text.toList))

end RecordGraph.Text
