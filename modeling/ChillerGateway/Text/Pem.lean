import ChillerGateway.Text.Base64
import ChillerGateway.Text.Quoted

/-!
# Sections of PEM files

A section stands between a line that begins it and a line that ends it, with the same label on both;
what is between them is base64.  Lines outside of sections do not matter, nor do sections with a
label that is not known.  A line that begins a section inside another one renames it.

* `Pem.sections` — the sections of a text up to the first fault.
-/

namespace ChillerGateway

namespace Pem

structure Section where
  label : String
  content : List UInt8
  deriving DecidableEq, Repr

/-- What is wrong with a text. -/
inductive Fault where
  /-- The end of the text inside a section. -/
  | unfinished (label : String)
  /-- A line that begins a section without five dashes at its end. -/
  | start (line : String)
  | encoding (fault : Base64.Fault)
  deriving DecidableEq, Repr

def endMarker (label : String) : String := "-----END " ++ label ++ "-----"

def Fault.message : Fault → String
  | unfinished label => "section end " ++ Text.quote (endMarker label) ++ " missing"
  | start line => "illegal section start: " ++ Text.quote line
  | encoding fault => fault.message

/-- The labels of sections that are read. -/
def knownLabels : List String := ["CERTIFICATE", "PUBLIC KEY", "RSA PRIVATE KEY", "PRIVATE KEY",
  "EC PRIVATE KEY", "X509 CRL", "CERTIFICATE REQUEST", "ECHCONFIG"]

/-- The lines of a text, each with the character that ends it; `line` is the one at hand, in
reverse. -/
def linesFrom : (line : List Char) → List Char → List (List Char)
  | line, [] => if line.isEmpty then [] else [line.reverse]
  | line, c :: rest =>
    if c = '\n' || c = '\r' then (c :: line).reverse :: linesFrom [] rest
    else linesFrom (c :: line) rest

def beginMark : List Char := "-----BEGIN ".toList

def isTrailing (c : Char) : Bool := c = '-' || c = ' ' || c = '\n' || c = '\r'

/-- The label that a line begins, if it begins a section. -/
def begun? (line : List Char) : Option (Except Fault String) :=
  if beginMark.isPrefixOf line then
    let tail := (line.reverse.takeWhile isTrailing).reverse
    if tail.count '-' = 5 then
      let label := line.take (line.length - (tail.dropWhile (· ≠ '-')).length)
      some (.ok (String.ofList (label.drop beginMark.length)))
    else some (.error (.start (String.ofList line)))
  else none

/-- The sections of lines; `label` is that of the section at hand and `body` its
text, in reverse. -/
def sectionsFrom : (label : Option String) → (body : List Char) → List (List Char) →
    List (Except Fault Section)
  | none, _, [] => []
  | some label, _, [] => [.error (.unfinished label)]
  | label, body, line :: rest =>
    match begun? line, label with
    | some (.error fault), _ => [.error fault]
    | some (.ok label), _ => sectionsFrom (some label) body rest
    | none, none => sectionsFrom none body rest
    | none, some label =>
      if (endMarker label).toList.isPrefixOf line then
        if knownLabels.contains label then
          match Base64.decode body.reverse with
          | .ok content => .ok ⟨label, content⟩ :: sectionsFrom none [] rest
          | .error fault => [.error (.encoding fault)]
        else sectionsFrom none [] rest
      else sectionsFrom (some label) (line.reverse ++ body) rest

/-- The sections of a text up to the first fault. -/
def sections (text : String) : List (Except Fault Section) :=
  sectionsFrom none [] (linesFrom [] text.toList)

end Pem

end ChillerGateway
