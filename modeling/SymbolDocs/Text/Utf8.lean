namespace SymbolDocs.Text

def ofUtf8? (bytes : ByteArray) : Option String :=
  String.fromUTF8? bytes

theorem ofUtf8?_toUTF8 (text : String) : ofUtf8? text.toUTF8 = some text := by
  unfold ofUtf8? String.fromUTF8?
  exact dif_pos text.isValidUTF8

def replacement : Char := '\uFFFD'

def isTrail (b : UInt8) : Bool :=
  0x80 ≤ b && b ≤ 0xBF

def isSecondOfThree (a b : UInt8) : Bool :=
  if a = 0xE0 then 0xA0 ≤ b && b ≤ 0xBF
  else if a = 0xED then 0x80 ≤ b && b ≤ 0x9F
  else isTrail b

def isSecondOfFour (a b : UInt8) : Bool :=
  if a = 0xF0 then 0x90 ≤ b && b ≤ 0xBF
  else if a = 0xF4 then 0x80 ≤ b && b ≤ 0x8F
  else isTrail b

def trailBits (b : UInt8) : Nat :=
  b.toNat % 0x40

def lossyChars : List UInt8 → List Char
  | [] => []
  | a :: r =>
    if a < 0x80 then Char.ofNat a.toNat :: lossyChars r
    else if 0xC2 ≤ a && a ≤ 0xDF then
      match r with
      | [] => [replacement]
      | b :: r' =>
        if isTrail b then Char.ofNat (a.toNat % 0x20 * 0x40 + trailBits b) :: lossyChars r'
        else replacement :: lossyChars (b :: r')
    else if 0xE0 ≤ a && a ≤ 0xEF then
      match r with
      | [] => [replacement]
      | b :: r' =>
        if isSecondOfThree a b then
          match r' with
          | [] => [replacement]
          | c :: r'' =>
            if isTrail c then
              Char.ofNat ((a.toNat % 0x10 * 0x40 + trailBits b) * 0x40 + trailBits c) ::
                lossyChars r''
            else replacement :: lossyChars (c :: r'')
        else replacement :: lossyChars (b :: r')
    else if 0xF0 ≤ a && a ≤ 0xF4 then
      match r with
      | [] => [replacement]
      | b :: r' =>
        if isSecondOfFour a b then
          match r' with
          | [] => [replacement]
          | c :: r'' =>
            if isTrail c then
              match r'' with
              | [] => [replacement]
              | d :: r''' =>
                if isTrail d then
                  Char.ofNat (((a.toNat % 0x08 * 0x40 + trailBits b) * 0x40 + trailBits c) * 0x40 +
                    trailBits d) :: lossyChars r'''
                else replacement :: lossyChars (d :: r''')
            else replacement :: lossyChars (c :: r'')
        else replacement :: lossyChars (b :: r')
    else replacement :: lossyChars r

def ofUtf8Lossy (bytes : ByteArray) : String :=
  String.ofList (lossyChars bytes.data.toList)

end SymbolDocs.Text
