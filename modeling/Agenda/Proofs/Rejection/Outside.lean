import Agenda.Proofs.Rejection.Gaps

/-!
# Attempts from outside

A command is an attempt that fails, or one of the deeds on several threads is.  The session goes on as
without it.
-/

namespace Agenda

universe u

variable {V : Type u}

namespace Session

open Agenda.System

variable {system after image : System V} {command : Command V} {attempt : Attempt V} {reply : Reply V}

section Prefixes

end Prefixes

section Nothing

end Nothing

section Commands

end Commands

section Threads

variable {index thread : Nat}

end Threads

end Session

end Agenda
