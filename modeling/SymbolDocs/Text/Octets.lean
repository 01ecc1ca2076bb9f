import SymbolDocs.Text.Utf8

namespace SymbolDocs.Text

abbrev Octets := List Char

def Octets.ofBytes (bytes : ByteArray) : Octets :=
  bytes.data.toList.map fun b => Char.ofNat b.toNat

def Octets.bytes (s : Octets) : ByteArray :=
  ⟨(s.map fun c => c.toNat.toUInt8).toArray⟩

def Octets.ofText (text : String) : Octets :=
  Octets.ofBytes text.toUTF8

def Octets.text (s : Octets) : String :=
  ofUtf8Lossy (Octets.bytes s)

end SymbolDocs.Text
