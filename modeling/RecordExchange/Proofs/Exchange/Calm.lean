import RecordExchange.Proofs.Exchange.Received
import RecordExchange.Proofs.Queue.Lifecycle

set_option autoImplicit false

/-!
Readers that give up inside no long record.

Such a reader leaves a long record behind only where its slot was closed under it, and a closed slot
is not opened again. So it never meets a mismatch, and what its slot carries stays accounted for.
-/

namespace RecordExchange

/-- A slot that is closed stays closed. -/
theorem Slot.Proceeds.isOpen {before after : Slot} (proceeds : before.Proceeds after)
    (opened : after.IsOpen) : before.IsOpen := by
  rcases opened with active | ended
  · exact .inl (proceeds.active_of_active active)
  · rcases proceeds.status with same | next
    · exact .inr (same.symm.trans ended)
    · rw [ended] at next
      generalize status : before.status = earlier at next
      cases next with
      | finishes => exact .inl status

namespace Port

variable {port : Port} {slot after : Slot} {point : ReadPoint} {step : ReadStep}

/-- No read met a mismatch, and none ended inside a long record but where the slot is closed. -/
structure Calm (port : Port) (slot : Slot) : Prop where
  matched : port.mismatched = false
  apart : port.torn = true → ¬ slot.IsOpen

theorem Calm.move (calm : port.Calm slot) (opened : after.IsOpen → slot.IsOpen) :
    port.Calm after :=
  ⟨calm.matched, fun torn open' => calm.apart torn (opened open')⟩

/-- A step of a read leaves a record torn only where the slot is closed. -/
theorem Calm.received (calm : port.Calm slot) (stands : port.StandsAt point) {made : Slot}
    {skip skip' : Nat} {queue queue' : List Record} (follows : port.Follows slot skip queue)
    (reads : Reads slot skip queue point made step skip' queue')
    (opened : after.IsOpen → slot.IsOpen) (consumer : Consumer) :
    (port.after consumer point step).Calm after := by
  have unmatched := follows.no_mismatch stands (fun torn _ => calm.apart torn) reads
  have later := calm.move opened
  cases reads with
  | fails idle closed ring stays other =>
    rw [after_failed _ _ _ other]
    exact ⟨calm.matched, fun _ open' => closed (opened open')⟩
  | takes front inside rows short => exact ⟨calm.matched, nofun⟩
  | completes front => exact ⟨calm.matched, nofun⟩
  | mismatches opened front other => exact absurd rfl (unmatched _ _)
  | _ => exact ⟨later.matched, later.apart⟩

end Port

namespace Exchange

variable {x : Exchange} {n i : Nat} {action : Action} {port : Port}

/-- The reader of slot `i` gives up inside a long record. -/
def GivesUpInside (x : Exchange) (i : Nat) : Action → Prop
  | .abandon j live => j = i ∧ live.check ≠ .ok () ∧ (x.ports i).isInside = true
  | _ => False

/-- An action on which the reader does not give up inside a long record keeps it calm. -/
theorem Affects.calm (affects : x.Affects i action port) (sound : x.Sound n)
    (inside : i < x.queue.consumers) (calm : (x.ports i).Calm (x.slot i))
    (stays : ¬ x.GivesUpInside i action) {after : Slot} (proceeds : (x.slot i).Proceeds after) :
    port.Calm after := by
  have later := calm.move proceeds.isOpen
  cases affects with
  | spares spared => exact later
  | accepts record spared => exact ⟨later.matched, later.apart⟩
  | leaves consumer spared => exact ⟨later.matched, later.apart⟩
  | reads canWait stands looks =>
    obtain ⟨skip, queue, made, skip', queue', follows, accounts, reads⟩ :=
      sound.reads inside canWait stands calm.matched
    rw [read_port]
    exact calm.received stands follows reads proceeds.isOpen _
  | @abandons point cause sleeping other spared given =>
    obtain ⟨live, rfl, failed⟩ := given
    have outside : point.isInside = false := by
      by_contra within
      have reading : (x.ports i).isInside = point.isInside :=
        Port.StandsAt.isInside (.inr sleeping)
      refine stays ⟨rfl, ?_, reading.trans (eq_true_of_ne_false within)⟩
      rw [failed]
      exact nofun
    rw [Port.ended_of_other _ _ other, outside, Bool.or_false]
    exact ⟨later.matched, later.apart⟩

end Exchange

end RecordExchange
