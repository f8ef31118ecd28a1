import KermitSend.Packet.Mode

/-!
Contract: the settings of one transfer.

Owns:
- the settings and their values for each packet mode;
- the faults that keep a transfer from starting, in the order they are looked for.

Does not own: the settings of the serial line.
-/

namespace KermitSend

/-- The settings of one transfer.  Times are in milliseconds. -/
structure Settings where
  mode : Packet.Mode
  /-- The most file bytes read for one packet. -/
  chunkLimit : Nat
  /-- Attempts on one packet before the transfer is given up. -/
  retryLimit : UInt8
  /-- The pause between a packet and the reading of its reply. -/
  replyDelay : Nat
  /-- The time a whole reply may take. -/
  replyTimeout : Nat
deriving DecidableEq, Repr

/-- What is wrong with settings. -/
inductive SettingsFault where
  | chunkLimit (given limit : Nat) (mode : Packet.Mode)
  | retryLimit
  | replyTimeout
  /-- A fault stated in words by whoever put the settings together. -/
  | stated (reason : String)
deriving DecidableEq, Repr

/-- The wording of a fault in settings. -/
def SettingsFault.message : SettingsFault → String
  | .chunkLimit given limit mode =>
      s!"chunk size {given} must be between 1 and {limit} for {mode.name} packets"
  | .retryLimit => "retry limit must be at least 1"
  | .replyTimeout => "ack timeout must be non-zero"
  | .stated reason => reason

namespace Settings

/-- The settings for a mode: its largest chunks, four attempts and five seconds. -/
def forMode (mode : Packet.Mode) : Settings :=
  { mode, chunkLimit := mode.limit, retryLimit := 4, replyDelay := 0, replyTimeout := 5000 }

/-- Accept settings that a transfer can run with: the chunk limit is looked at first, then
the retry limit, then the reply timeout. -/
def validate (settings : Settings) : Except SettingsFault Unit :=
  if settings.chunkLimit = 0 ∨ settings.chunkLimit > settings.mode.limit then
    .error (.chunkLimit settings.chunkLimit settings.mode.limit settings.mode)
  else if settings.retryLimit = 0 then .error .retryLimit
  else if settings.replyTimeout = 0 then .error .replyTimeout
  else .ok ()

/-- Settings are accepted exactly when each figure is within its bounds. -/
theorem validate_eq_ok_iff (settings : Settings) :
    settings.validate = .ok () ↔
      0 < settings.chunkLimit ∧ settings.chunkLimit ≤ settings.mode.limit ∧
        0 < settings.retryLimit.toNat ∧ 0 < settings.replyTimeout := by
  have retryZero : settings.retryLimit = 0 ↔ settings.retryLimit.toNat = 0 := by
    rw [← UInt8.toNat_inj]
    rfl
  simp only [validate, retryZero]
  split
  · simp only [reduceCtorEq, false_iff]
    omega
  · split
    · simp only [reduceCtorEq, false_iff]
      omega
    · split
      · simp only [reduceCtorEq, false_iff]
        omega
      · simp only [true_iff]
        omega

end Settings

end KermitSend
