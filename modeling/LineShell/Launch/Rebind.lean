/-
**Putting a file in the place of a stream.**

A child opens the target of its redirection and makes the stream's descriptor refer to it.  The
target is opened without waiting, so that a pipe without a partner fails at once; the open file is
told to wait again before it is handed on.  The descriptor that the opening returned is closed
afterwards, on success and on failure, unless it is the stream's own.

Main definitions:

* `LineShell.StatusFlags`, `LineShell.DescriptorCalls` — the calls on a table of descriptors;
* `LineShell.DescriptorCalls.rebind` — the replacement of one stream.
-/

import LineShell.Host

set_option autoImplicit false

namespace LineShell

/-- The settings of an open file that can be changed while it is open. -/
structure StatusFlags where
  /-- Whether a call that would have to wait fails instead. -/
  nonblocking : Bool
deriving DecidableEq

/-- The calls on the descriptors of the acting process. -/
structure DescriptorCalls (ω : Type) where
  /-- Open the target of a redirection without waiting, for reading, or for writing from an empty
  file on, which is created if need be. -/
  openTarget : Redirection → Act ω Errno Nat
  /-- The settings of an open file. -/
  statusFlags : Nat → Act ω Errno StatusFlags
  /-- New settings for an open file. -/
  setStatusFlags : Nat → StatusFlags → Act ω Errno Unit
  /-- Make the second descriptor refer to what the first refers to. -/
  duplicate : Nat → Nat → Act ω Errno Unit
  /-- Close a descriptor. -/
  close : Nat → ω → ω

namespace DescriptorCalls

variable {ω : Type} (calls : DescriptorCalls ω)

/-- Tell an open file to wait. -/
def clearNonblocking (descriptor : Nat) : Act ω Errno Unit := do
  let flags ← calls.statusFlags descriptor
  calls.setStatusFlags descriptor { flags with nonblocking := false }

/-- Hand an open file on to a descriptor. -/
def install (descriptor target : Nat) : Act ω RebindError Unit := do
  (calls.clearNonblocking descriptor).mapError .opening
  if descriptor = target then return ()
  (calls.duplicate descriptor target).mapError .rebinding

/-- Open the target of a redirection and put it in the place of a descriptor. -/
def rebind (redirection : Redirection) (target : Nat) : Act ω RebindError Unit := do
  let descriptor ← (calls.openTarget redirection).mapError .opening
  let result ← (calls.install descriptor target).attempt
  if descriptor ≠ target then
    Act.change (calls.close descriptor)
  match result with
  | .ok () => return ()
  | .error cause => throw cause

/-- Carry a redirection out on the stream that it names. -/
def redirect (redirection : Redirection) : Act ω RebindError Unit :=
  calls.rebind redirection redirection.stream.descriptor

end DescriptorCalls

end LineShell
