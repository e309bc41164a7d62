/-! # Texts as bytes

The bytes of a text in UTF-8, and the text of bytes that are UTF-8.
-/

namespace QuerySynth

def textBytes (text : String) : List UInt8 :=
  text.toUTF8.data.toList

/-- The text that bytes encode in UTF-8. -/
def textOfBytes? (bytes : List UInt8) : Option String :=
  String.fromUTF8? ⟨bytes.toArray⟩

end QuerySynth
