/-! Decoding UTF-8 with replacement. Each longest run of bytes that could still have become a
character, but does not, is replaced by one U+FFFD. -/
namespace Upkeep.Text

/-- The replacement character. -/
def replacement : Char := '\ufffd'

/-- Whether a byte continues a character. -/
def continues (b : UInt8) : Bool :=
  0x80 ≤ b && b ≤ 0xBF

/-- Whether `second` may follow `first`, the first byte of a character of three or four. -/
def mayFollow (first second : UInt8) : Bool :=
  if first = 0xE0 then 0xA0 ≤ second && second ≤ 0xBF
  else if first = 0xED then 0x80 ≤ second && second ≤ 0x9F
  else if first = 0xF0 then 0x90 ≤ second && second ≤ 0xBF
  else if first = 0xF4 then 0x80 ≤ second && second ≤ 0x8F
  else continues second

/-- The low bits that a continuing byte adds. -/
def low (b : UInt8) : Nat :=
  b.toNat % 0x40

/-- The character that starts with `first`, and how many of the bytes after it belong to it. -/
def firstCharacter (first : UInt8) (rest : List UInt8) : Char × Nat :=
  if first < 0x80 then (Char.ofNat first.toNat, 0)
  else if 0xC2 ≤ first && first ≤ 0xDF then
    match rest with
    | b :: _ =>
      if continues b then (Char.ofNat ((first.toNat % 0x20) * 0x40 + low b), 1) else (replacement, 0)
    | [] => (replacement, 0)
  else if 0xE0 ≤ first && first ≤ 0xEF then
    match rest with
    | b :: rest =>
      if !mayFollow first b then (replacement, 0)
      else
        match rest with
        | c :: _ =>
          if continues c then
            (Char.ofNat ((first.toNat % 0x10) * 0x1000 + low b * 0x40 + low c), 2)
          else (replacement, 1)
        | [] => (replacement, 1)
    | [] => (replacement, 0)
  else if 0xF0 ≤ first && first ≤ 0xF4 then
    match rest with
    | b :: rest =>
      if !mayFollow first b then (replacement, 0)
      else
        match rest with
        | c :: rest =>
          if !continues c then (replacement, 1)
          else
            match rest with
            | d :: _ =>
              if continues d then
                (Char.ofNat ((first.toNat % 8) * 0x40000 + low b * 0x1000 + low c * 0x40 + low d), 3)
              else (replacement, 2)
            | [] => (replacement, 2)
        | [] => (replacement, 1)
    | [] => (replacement, 0)
  else (replacement, 0)

/-- The characters of some bytes. -/
def lossyCharacters : List UInt8 → List Char
  | [] => []
  | first :: rest =>
    let (c, used) := firstCharacter first rest
    c :: lossyCharacters (rest.drop used)
termination_by bytes => bytes.length
decreasing_by simp only [List.length_cons, List.length_drop]; omega

/-- The text of some bytes. -/
def lossy (bytes : ByteArray) : String :=
  String.ofList (lossyCharacters bytes.toList)

end Upkeep.Text
