import ChillerGateway.Device.Basic

/-!
# Serial lines

The controllers speak 4800 baud with seven data bits, even parity, one stop bit and handshake by
hardware; only the speed and the time limit can be set.
-/

namespace ChillerGateway

inductive DataBits where
  | five
  | six
  | seven
  | eight
  deriving DecidableEq, Repr

inductive Parity where
  | none
  | odd
  | even
  deriving DecidableEq, Repr

inductive StopBits where
  | one
  | two
  deriving DecidableEq, Repr

inductive FlowControl where
  | none
  | software
  | hardware
  deriving DecidableEq, Repr

/-- How to open a serial port. -/
structure SerialSettings where
  port : String
  baudRate : Nat := 4800
  /-- How long a reply may take, in milliseconds. -/
  timeout : Nat := 2000
  dataBits : DataBits := .seven
  parity : Parity := .even
  stopBits : StopBits := .one
  flowControl : FlowControl := .hardware
  deriving DecidableEq, Repr

namespace SerialSettings

/-- How the system refuses to open a port that does not exist. -/
def refusal : Error := .serial "No such file or directory"

/-- The device behind a port that does not exist. -/
def unplugged (s : SerialSettings) : Device :=
  .link {
    timeout := s.timeout
    farEnd := { responder := .script [] true }
    refusals := none
    refusal }

end SerialSettings

end ChillerGateway
