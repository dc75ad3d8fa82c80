import ChillerGateway.Error
import ChillerGateway.Text.Pem

/-!
# Certificates and keys for encrypted connections

A server proves who it is with a chain of certificates from one file and a private key from another.

* `Tls.loadIdentity` — the sections of both files.  All certificates are read, and of the keys the
  first.
-/

namespace ChillerGateway

/-- A chain of certificates with a private key, as they stand in files. -/
structure TlsIdentity where
  certificates : List Pem.Section
  key : Pem.Section
  deriving DecidableEq, Repr

namespace Tls

/-- What a missing file is reported as. -/
def missingFile : String := "No such file or directory (os error 2)"

def keyLabels : List String := ["RSA PRIVATE KEY", "PRIVATE KEY", "EC PRIVATE KEY"]

/-- A failure with a file. -/
def fileError (path problem : String) : Error := .tls (path ++ ": " ++ problem)

/-- The sections of a file up to the first fault. -/
def sectionsOf (path : String) (contents : Option String) :
    Except Error (List (Except Error Pem.Section)) :=
  match contents with
  | none => .error (fileError path missingFile)
  | some text => .ok ((Pem.sections text).map (·.mapError fun f => fileError path f.message))

/-- All certificates of a file, of which there is at least one. -/
def certificates (path : String) (contents : Option String) : Except Error (List Pem.Section) := do
  let sections ← (← sectionsOf path contents).mapM id
  let chain := sections.filter (·.label = "CERTIFICATE")
  if chain.isEmpty then throw (fileError path "no certificates found")
  return chain

/-- The first private key among sections. -/
def firstKey? : List (Except Error Pem.Section) → Except Error (Option Pem.Section)
  | [] => .ok none
  | .error e :: _ => .error e
  | .ok s :: rest => if keyLabels.contains s.label then .ok (some s) else firstKey? rest

/-- The first private key of a file. -/
def privateKey (path : String) (contents : Option String) : Except Error Pem.Section := do
  match ← firstKey? (← sectionsOf path contents) with
  | some key => return key
  | none => throw (fileError path "no private key found")

/-- The identity in two files, given by path; `files` tells what a file holds, if it is there. -/
def loadIdentity (files : String → Option String) (certificatePath keyPath : String) :
    Except Error TlsIdentity := do
  let chain ← certificates certificatePath (files certificatePath)
  return ⟨chain, ← privateKey keyPath (files keyPath)⟩

end Tls

end ChillerGateway
