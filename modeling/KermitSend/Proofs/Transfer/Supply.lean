import KermitSend.Proofs.Transfer.RetryBudget

/-!
Contract: file sources that supply a content to its end.

Owns:
- what supplying asks of a source beyond serving in order: every read brings something or is only
  interrupted;
- sources that announce a size and then supply a content;
- the sources of this library that do, and the plain file that serves all there is room for.

Does not own: what a transfer makes of such a source.
-/

set_option autoImplicit false

namespace KermitSend

variable {φ π : Type}

/-! ## Sources that supply a content -/

/-- A source that in its `ready` states serves a content in order and does not fail for good: while
there is something left and room for it, a read brings some of it or is interrupted. -/
structure FileSource.Supplies
    (file : FileSource φ)
    (ready : φ → Prop)
    (rest : φ → List UInt8) : Prop where
  serves : file.Serves rest
  sized : ∀ state, ready state → ready (file.size state).2
  stays : ∀ state room, ready state → ready (file.read state room).2
  brings : ∀ state room, ready state → 0 < room → rest state ≠ [] →
    (Exchange.fileRead room (file.read state room).1).Undisturbed

/-- A source with what makes it ready and what is left of its content. -/
structure Supply (φ : Type) where
  file : FileSource φ
  ready : φ → Prop
  rest : φ → List UInt8
  supplies : file.Supplies ready rest

/-- From this state on, a source announces `total` bytes and supplies a content. -/
structure FileSource.HandsOut
    (file : FileSource φ)
    (state : φ)
    (total : Nat)
    (content : List UInt8) : Prop where
  announced : (file.size state).1 = .ok total
  supplied : ∃ supply : Supply φ,
    supply.file = file ∧ supply.ready state ∧ supply.rest state = content

namespace FileSource.Supplies

variable
  {file : FileSource φ}
  {ready : φ → Prop}
  {rest : φ → List UInt8}

/-- Every call but the closing keeps a source ready. -/
theorem ready_perform
    (supplies : file.Supplies ready rest)
    (port : SerialPort π)
    {devices : Devices φ π}
    (before : ready devices.file)
    (action : Action)
    (notClosing : ∀ answer,
      (action.perform file port devices).exchanges ≠ [.close answer]) :
    ready (action.perform file port devices).devices.file := by
  cases action with
  | askSize react => exact supplies.sized devices.file before
  | fileRead room react => exact supplies.stays devices.file room before
  | close react => exact absurd rfl (notClosing _)
  | _ => exact before

end FileSource.Supplies

/-! ## The sources of this library -/

private theorem take_ne_nil
    {bytes : List UInt8}
    {room : Nat}
    (positive : 0 < room)
    (present : bytes ≠ []) :
    bytes.take room ≠ [] := by
  rw [ne_eq, List.take_eq_nil_iff, not_or]
  exact ⟨Nat.ne_of_gt positive, present⟩

/-- A turn of a script that lets a read bring something, or only interrupts it. -/
def Scripted.ReadTurn.Brings : Scripted.ReadTurn → Prop
  | .atMost count => 0 < count
  | .fault cause => cause.kind = .interrupted

instance : DecidablePred Scripted.ReadTurn.Brings
  | .atMost count => inferInstanceAs (Decidable (0 < count))
  | .fault cause => inferInstanceAs (Decidable (cause.kind = .interrupted))

theorem Scripted.File.supplies :
    Scripted.File.device.Supplies (fun file => ∀ turn ∈ file.turns, turn.Brings)
      Scripted.File.data where
  serves := Scripted.File.serves
  sized := fun _ bring => bring
  stays := by
    intro file room bring
    simp only [device, File.read]
    split
    · rename_i count turns script
      exact fun turn member => bring turn (script ▸ List.mem_cons_of_mem _ member)
    · rename_i fault turns script
      exact fun turn member => bring turn (script ▸ List.mem_cons_of_mem _ member)
    · exact bring
  brings := by
    intro file room bring positive present
    simp only [device, File.read]
    split
    · rename_i count turns script
      have allowed := bring (.atMost count) (script ▸ List.mem_cons_self)
      simp only [serve, Exchange.Undisturbed, ReadTurn.Brings] at allowed ⊢
      exact take_ne_nil (Nat.lt_min.2 ⟨allowed, positive⟩) present
    · rename_i cause turns script
      have interrupted := bring (.fault cause) (script ▸ List.mem_cons_self)
      exact interrupted
    · simp only [serve, Exchange.Undisturbed]
      exact take_ne_nil positive present

/-- A scripted file hands out its data, however its script cuts and interrupts the reads. -/
theorem Scripted.File.handsOut
    (file : Scripted.File)
    {total : Nat}
    (announced : file.size = .ok total)
    (bring : ∀ turn ∈ file.turns, turn.Brings) :
    Scripted.File.device.HandsOut file total file.data where
  announced := announced
  supplied := ⟨⟨_, _, _, Scripted.File.supplies⟩, rfl, bring, rfl⟩

theorem Storage.LocalFile.supplies :
    Storage.LocalFile.device.Supplies
      (fun file => file.isOpen = true ∧ ∃ content, file.entry = .file content)
      Storage.LocalFile.rest where
  serves := Storage.LocalFile.serves
  sized := fun _ opened => opened
  stays := by
    rintro ⟨entry, position, isOpen⟩ room ⟨rfl, content, rfl⟩
    exact ⟨rfl, content, rfl⟩
  brings := by
    rintro ⟨entry, position, isOpen⟩ room ⟨rfl, content, rfl⟩ positive present
    exact take_ne_nil positive present

/-- A regular file that was opened hands out its content. -/
theorem Storage.LocalFile.handsOut (content : List UInt8) :
    Storage.LocalFile.device.HandsOut (.ofEntry (.file content)) content.length content where
  announced := rfl
  supplied := ⟨⟨_, _, _, Storage.LocalFile.supplies⟩, rfl, ⟨rfl, content, rfl⟩, rfl⟩

/-- A file that serves all that there is room for. -/
def Scripted.File.plain (total : Nat) (content : List UInt8) : Scripted.File :=
  { size := .ok total, data := content, turns := [], closing := .ok () }

theorem Scripted.File.plain_handsOut (total : Nat) (content : List UInt8) :
    Scripted.File.device.HandsOut (.plain total content) total content :=
  Scripted.File.handsOut (.plain total content) rfl nofun

end KermitSend
