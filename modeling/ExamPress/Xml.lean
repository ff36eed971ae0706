import ExamPress.Text.Basic

/-! # XML

Elements with attributes, text between them, and their text form. An element without content is one
empty tag; an element whose content is an empty text has two tags. Marks that would be read as
markup are written as entities, in a document of ASCII characters also every character that is not
ASCII. -/

namespace ExamPress

/-- A piece of an XML document. -/
inductive Xml where
  | element (name : String) (attributes : List (String × Text)) (content : List Xml)
  | text (content : Text)
deriving Inhabited, Repr

namespace Xml

/-- The characters that a document may be written in. -/
inductive Charset where
  | unicode
  | ascii
deriving DecidableEq, Repr

/-- Whether XML has the character at all. -/
def isXmlChar (c : CodePoint) : Bool :=
  let n := c.toNat
  !(n < 0x09 || n == 0x0b || n == 0x0c || (0x0e ≤ n && n < 0x20) || n == 0xfffe || n == 0xffff)

/-- Whether a text can stand in an XML document. -/
def isXmlText (s : Text) : Bool := s.all isXmlChar

/-- The wording for a text that can not stand in an XML document. -/
def illegalTextMessage : String :=
  "All strings must be XML compatible: Unicode or ASCII, no NULL bytes or control characters"

/-- A character by its number. -/
def reference (c : CodePoint) : Text := "&#".toText ++ Text.ofNat c.toNat ++ ";".toText

/-- A character of a text between tags. -/
def escapeChar (charset : Charset) (c : CodePoint) : Text :=
  if c = '&' then "&amp;".toText
  else if c = '<' then "&lt;".toText
  else if c = '>' then "&gt;".toText
  else if c = '\r' ∨ (charset = .ascii ∧ 0x7f < c.toNat) then reference c
  else [c]

/-- A character of an attribute value. -/
def escapeAttributeChar (charset : Charset) (c : CodePoint) : Text :=
  if c = '"' then "&quot;".toText
  else if c = '\t' ∨ c = '\n' then reference c
  else escapeChar charset c

/-- A text between tags. -/
def escape (charset : Charset) (s : Text) : Text := s.flatMap (escapeChar charset)

/-- An attribute after the name of an element or another attribute. -/
def writeAttribute (charset : Charset) (entry : String × Text) : Text :=
  ' ' :: (entry.1.toText ++ "=\"".toText ++
    entry.2.flatMap (escapeAttributeChar charset) ++ "\"".toText)

mutual

/-- The text form of a piece. -/
def write (charset : Charset) : Xml → Text
  | text content => escape charset content
  | element name attributes content =>
    let opening : Text := '<' :: (name.toText ++ attributes.flatMap (writeAttribute charset))
    match content with
    | [] => opening ++ "/>".toText
    | first :: rest =>
      opening ++ ">".toText ++ (write charset first ++ writeAll charset rest) ++
        "</".toText ++ name.toText ++ ">".toText

/-- The text form of pieces one after the other. -/
def writeAll (charset : Charset) : List Xml → Text
  | [] => []
  | piece :: pieces => write charset piece ++ writeAll charset pieces

end

/-- The texts directly inside a list of pieces. -/
def directText (pieces : List Xml) : Text :=
  pieces.flatMap fun piece => match piece with
    | text content => content
    | element _ _ _ => []

mutual

/-- The texts of all elements of a name, in the order of the document. -/
def textOf (wanted : String) : Xml → Text
  | text _ => []
  | element name _ content =>
    (if name = wanted then directText content else []) ++ textOfAll wanted content

/-- The texts of all elements of a name in pieces one after the other. -/
def textOfAll (wanted : String) : List Xml → Text
  | [] => []
  | piece :: pieces => textOf wanted piece ++ textOfAll wanted pieces

end

/-- An element with further attributes in front of its own. -/
def withAttributes (more : List (String × Text)) : Xml → Xml
  | element name attributes content => element name (more ++ attributes) content
  | text content => text content

end Xml

end ExamPress
