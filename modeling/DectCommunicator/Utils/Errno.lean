import DectCommunicator.Lib.StopAndWait

/-!
# Return codes

The C functions return 0 or a negative errno. The error numbers the firmware names are the
constructors of `Errno`; a code that a driver or an event reports is passed through as
`driver code`.
-/

namespace DectCommunicator

/-- The error numbers that the firmware names, and those that it only passes through. -/
inductive Errno where
  | eagain
  | ealready
  | ecanceled
  | einval
  | enetdown
  | enodev
  | enolink
  | enomem
  | enotconn
  | driver (code : Int)
deriving DecidableEq, Repr

/-- A return code: 0, or a negative errno. It is the status of the stop-and-wait library, so that
the write functions of both transports are programs of it as they stand. -/
abbrev Ret := StopAndWait.Status Errno

/-- A numeric return code, as an event of the modem carries it: 0 is success, and any other value
counts as an error. -/
def Ret.ofInt (code : Int) : Ret := if code = 0 then .ok else .err (.driver code)

end DectCommunicator
