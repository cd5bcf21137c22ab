import HostServices.Errno
import HostServices.Signal.Name
import HostServices.Text.Quoted

/-!
# Failures of the services

What a service answers when it cannot do what was asked: the kinds of failure, their wordings, and
the advice that goes with them.
-/

namespace HostServices

/-- Why a service failed. -/
inductive Failure
  /-- The caller passed something that makes no sense. -/
  | argument (message : String)
  | invalidSignal (message : String)
  /-- The request is understood but not served. -/
  | unsupported (what : String)
  /-- A blocking wait was called off. -/
  | interrupted
  | os (operation reason : String)
  deriving DecidableEq

namespace Failure

def message : Failure → String
  | .argument text | .invalidSignal text => text
  | .unsupported what => "Not supported: " ++ what
  | .interrupted => "Interrupted while waiting for a child process"
  | .os operation reason => operation ++ " failed: " ++ reason

/-- The kind of a failure as a reader sees it. -/
def kind : Failure → String
  | .argument _ => "Argument"
  | .invalidSignal _ => "InvalidSignal"
  | .unsupported _ => "Unsupported"
  | .interrupted => "Interrupted"
  | .os .. => "Os"

/-- The kind of a failure in data. -/
def tag : Failure → String
  | .argument _ => "argument"
  | .invalidSignal _ => "invalid_signal"
  | .unsupported _ => "unsupported"
  | .interrupted => "interrupted"
  | .os .. => "os"

def code : Failure → String
  | .argument _ => "primitive::argument_error"
  | .invalidSignal _ => "primitive::invalid_signal"
  | .unsupported _ => "primitive::not_supported"
  | .interrupted => "primitive::interrupted"
  | .os .. => "primitive::os_error"

/-- What the caller may do about a failure. -/
def help : Failure → String
  | .argument _ => "Check the arguments passed to the primitive."
  | .invalidSignal _ => "Use a signal name such as \"SIGUSR1\", \"USR1\" or a signal number."
  | .unsupported _ => "This code path is intentionally left unimplemented."
  | .interrupted => "The runtime requested cancellation of the blocking call."
  | .os .. => "The operating system rejected the request. See errno for details."

/-- The caller's arguments are at fault. -/
def isArgument : Failure → Bool
  | .argument _ | .invalidSignal _ => true
  | _ => false

/-- A failure spelled out: its kind and what it holds. -/
def display : Failure → String
  | .interrupted => "Interrupted"
  | .os operation reason =>
    "Os \x7b op: " ++ Text.quote operation ++ ", errno: " ++ Text.quote reason ++ " \x7d"
  | .argument text => "Argument(" ++ Text.quote text ++ ")"
  | .invalidSignal text => "InvalidSignal(" ++ Text.quote text ++ ")"
  | .unsupported what => "Unsupported(" ++ Text.quote what ++ ")"

def ofErrno (operation : String) (errno : Errno) : Failure := .os operation errno.description

/-- A failed input or output, by its number. -/
def ofSystem (number : Int) : Failure := .os "io" (Errno.systemText number)

def ofInputOutput (reason : String) : Failure := .os "io" reason

def ofName (e : Signal.NameError) : Failure := .invalidSignal e.message

def ofDescriptor (descriptor : String) : Failure :=
  .unsupported ("signal action '" ++ descriptor ++ "'")

end Failure

/-- Why a call does not do what it is for: it answers a failure, or it panics and answers nothing. -/
inductive Fault
  | failure (f : Failure)
  | panic
  deriving DecidableEq

end HostServices
