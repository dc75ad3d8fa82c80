/-!
# Characters from bytes
-/

namespace ChillerGateway

namespace Text

/-- The text that bytes encode, if they are characters in UTF-8. -/
def ofBytes? (bytes : List UInt8) : Option String := String.fromUTF8? ⟨bytes.toArray⟩

/-- The bytes that encode a text. -/
def toBytes (text : String) : List UInt8 := text.toUTF8.toList

end Text

end ChillerGateway
