import PinnedLink.Stream.IoError

/-!
# Byte streams

The stream under a session: it takes some of the bytes offered to it, gives some of the bytes
that arrived, and can be told to wait or not to wait.  Any of these may fail.

A loop over a stream ends because a stream has only a finite amount of trouble and of input to
give.  That amount is its `budget`: no read or write raises it, an interrupted one lowers it, and so
does a read that gives at least one byte.
-/

namespace PinnedLink

/-- A stream of bytes in a state of type `σ`. -/
class ByteStream (σ : Type) where
  /-- Offers bytes; on success, the number of bytes taken from their front. -/
  write : σ → Bytes → Except IoError Nat × σ
  /-- Asks for at most a number of bytes; on success, the bytes, none at the end of the stream. -/
  read : σ → Nat → Except IoError Bytes × σ
  /-- Makes operations wait, or not wait. -/
  setBlocking : σ → Bool → Except IoError Unit × σ
  /-- Trouble and input that the stream may still give. -/
  budget : σ → Nat
  write_le : ∀ {s : σ} {bytes : Bytes} {n : Nat}, (write s bytes).1 = .ok n → n ≤ bytes.length
  read_le : ∀ {s : σ} {max : Nat} {bytes : Bytes},
    (read s max).1 = .ok bytes → bytes.length ≤ max
  budget_write : ∀ (s : σ) (bytes : Bytes), budget (write s bytes).2 ≤ budget s
  budget_write_interrupted : ∀ {s : σ} {bytes : Bytes} {e : IoError},
    (write s bytes).1 = .error e → e.kind = .interrupted → budget (write s bytes).2 < budget s
  budget_read : ∀ (s : σ) (max : Nat), budget (read s max).2 ≤ budget s
  budget_read_interrupted : ∀ {s : σ} {max : Nat} {e : IoError},
    (read s max).1 = .error e → e.kind = .interrupted → budget (read s max).2 < budget s
  budget_read_some : ∀ {s : σ} {max : Nat} {bytes : Bytes},
    (read s max).1 = .ok bytes → bytes ≠ [] → budget (read s max).2 < budget s

namespace ByteStream

variable {σ : Type} [ByteStream σ]

theorem budget_le_of_write {s t : σ} {bytes : Bytes} {r : Except IoError Nat}
    (h : write s bytes = (r, t)) : budget t ≤ budget s := by
  have hb := budget_write s bytes
  rw [h] at hb
  exact hb

theorem budget_lt_of_write_interrupted {s t : σ} {bytes : Bytes} {e : IoError}
    (h : write s bytes = (.error e, t)) (hk : e.kind = .interrupted) : budget t < budget s := by
  have hb : budget (write s bytes).2 < budget s := budget_write_interrupted (by rw [h]) hk
  rw [h] at hb
  exact hb

theorem budget_le_of_read {s t : σ} {max : Nat} {r : Except IoError Bytes}
    (h : read s max = (r, t)) : budget t ≤ budget s := by
  have hb := budget_read s max
  rw [h] at hb
  exact hb

theorem budget_lt_of_read_interrupted {s t : σ} {max : Nat} {e : IoError}
    (h : read s max = (.error e, t)) (hk : e.kind = .interrupted) : budget t < budget s := by
  have hb : budget (read s max).2 < budget s := budget_read_interrupted (by rw [h]) hk
  rw [h] at hb
  exact hb

theorem budget_lt_of_read_some {s t : σ} {max : Nat} {bytes : Bytes}
    (h : read s max = (.ok bytes, t)) (hne : bytes ≠ []) : budget t < budget s := by
  have hb : budget (read s max).2 < budget s := budget_read_some (by rw [h]) hne
  rw [h] at hb
  exact hb

theorem le_of_write_ok {s t : σ} {bytes : Bytes} {n : Nat}
    (h : write s bytes = (.ok n, t)) : n ≤ bytes.length :=
  write_le (congrArg Prod.fst h)

end ByteStream

end PinnedLink
