import Btle.Server.AccessControl
import Btle.Server.Refilled

namespace Btle.Server

open Machine Throwing Twins

/-- As long as all that is answered and pushed is written, what is sent over a run does not depend on
    what the new buffers hold. -/
theorem initialised_writes_agree (host : Host) (garbage : Nat → Nat → UInt8) (world : World)
    (given : List (CentralRef × Buffer))
    (initialised : ∀ taken ∈ visited (handlerStep host) world given, Initialised host taken.1 taken.2.2) :
    Agree (handlerStep host) (handlerStep (host.refilled garbage)) world world given := by
  have start : world = { world with sent := world.sent } := rfl
  exact agree_of_careful (handlerStep_same host garbage) start initialised

/-- Notifications of the value at handle 1, which takes commands. -/
def sharedNotepad : World :=
  (after (do
    let ref ← createAttribute plainHost none (.buffer [0]) (some 1) none
    modify fun world => world.setAttribute ref
      { world.attrib ref with
        properties := propertyWriteWithoutResp, listeners := [.notification 0 0] } : Js Unit)
          .initial).setCentral 0 ⟨23, false⟩

def namedHost : Host := { plainHost with freeValue := Attribute.value }

def readingAndWriting : List (CentralRef × Buffer) :=
  [(0, [opReadRequest, 5, 0]), (0, [opWriteCmd, 1, 0, 7, 8])]

theorem readingAndWriting_initialised :
    ∀ taken ∈ visited (handlerStep namedHost) sharedNotepad readingAndWriting,
      Initialised namedHost taken.1 taken.2.2 := by
  intro taken member
  rcases List.mem_cons.mp member with rfl | member
  · refine ⟨⟨opReadRequest, [5, 0], .read, rfl, rfl, fun _ => by decide⟩, ?_⟩
    intro ref value target
    cases target
  · rcases List.mem_cons.mp member with rfl | member
    · refine ⟨⟨opWriteCmd, [1, 0, 7, 8], .writeCmd, rfl, rfl, fun _ => by decide⟩, ?_⟩
      intro ref value target _ kept present
      have first : writeIn (after (createHandler namedHost 0 [opReadRequest, 5, 0]) sharedNotepad)
          [opWriteCmd, 1, 0, 7, 8] = some (0, [7, 8]) := by decide +kernel
      cases target.symm.trans first
      cases present
      rw [pushLength]
      show min _ _ ≤ _
      exact Nat.min_le_left _ _
    · cases member

theorem readingAndWriting_agree :
    (∀ taken ∈ visited (handlerStep namedHost) sharedNotepad readingAndWriting,
        Initialised namedHost taken.1 taken.2.2) ∧
      Agree (handlerStep namedHost) (handlerStep (namedHost.refilled fun _ _ => 0xFF)) sharedNotepad
        sharedNotepad readingAndWriting :=
  ⟨readingAndWriting_initialised, initialised_writes_agree namedHost (fun _ _ => 0xFF) sharedNotepad
    readingAndWriting readingAndWriting_initialised⟩

/-- The handle in an error about an opcode that is not supported is never written. -/
theorem unsupported_leaks :
    ¬ Agree (handlerStep plainHost) (handlerStep (plainHost.refilled fun _ _ => 0xFF)) notepad notepad
      [(0, [0x16, 1, 0, 7])] := by
  intro agree
  have same := agree _ _ _ _ rfl rfl
  revert same
  decide +kernel

end Btle.Server
