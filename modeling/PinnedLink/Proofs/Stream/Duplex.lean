import PinnedLink.Proofs.Stream.Lossless
import PinnedLink.Stream.Duplex

/-!
# Connections that lose nothing

On a `LosslessDuplex` what one end has sent is what is ahead of the other one, and to give up a
connection takes back nothing that was sent.  Pipes are such a connection.

A `Drift` is whatever may happen to a connection while nobody uses it, short of losing, adding or
altering bytes: how many bytes the next calls move, what goes wrong with them, and whether they have to
wait.
-/

namespace PinnedLink

/-- A connection that keeps account of the bytes on their way in either direction. -/
class LosslessDuplex (σ : Type) extends LosslessStream σ, Duplex σ where
  sent_fresh : sent fresh = []
  ahead_fresh : ahead fresh = []
  sent_flip : ∀ s : σ, sent (flip s) = ahead s
  ahead_flip : ∀ s : σ, ahead (flip s) = sent s
  sent_cutOff : ∀ s : σ, sent (cutOff s) = sent s
  ahead_cutOff : ∀ s : σ, ahead (cutOff s) = ahead s

instance : LosslessDuplex Pipe.End where
  sent_fresh := rfl
  ahead_fresh := rfl
  sent_flip _ := rfl
  ahead_flip _ := rfl
  sent_cutOff _ := rfl
  ahead_cutOff _ := rfl

/-- A change of a stream that keeps the bytes on their way. -/
structure Drift (σ : Type) [LosslessStream σ] where
  change : σ → σ
  sent_change : ∀ s : σ, LosslessStream.sent (change s) = LosslessStream.sent s
  ahead_change : ∀ s : σ, LosslessStream.ahead (change s) = LosslessStream.ahead s

end PinnedLink
