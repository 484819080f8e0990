import AiTrader.Library.Bounded
import AiTrader.Library.Returns
import AiTrader.Entry.VerifiedRelease

/-! # What a release on terminal broker evidence has seen

The release acts on evidence read before its transaction and on rows read within it; other writers may commit between any
two statements. -/

namespace AiTrader.Entry

open Library Library.Program EntryLifecycle

variable {order : AlpacaOrderView} {store : EntryLifecycle} {contract : Contract EntryLifecycle}

/-- The orders of a chain, the entry order and at most ten replacements. -/
def replacementChainLimit : Nat := 11

/-- A chain of replacements without repetition up to `last`. -/
structure ReplacementWalk (chain : List AlpacaOrderView) (last : AlpacaOrderView) : Prop where
  distinct : (chain.map (·.id)).Nodup
  ends : chain.getLast? = some last
  linked : ∀ order ∈ chain.dropLast, order.replacedBy.isSome = true

/-- The chain is complete: its last order was not replaced. -/
structure ReplacementChain (chain : List AlpacaOrderView) (last : AlpacaOrderView) : Prop
    extends ReplacementWalk chain last where
  complete : last.replacedBy = none
  bounded : chain.length ≤ replacementChainLimit

theorem ReplacementWalk.extend {chain : List AlpacaOrderView} {replacement : AlpacaOrderView}
    (walk : ReplacementWalk chain order) (replaced : order.replacedBy.isNone = false)
    (new : chain.any (fun earlier => earlier.id == replacement.id) = false) :
    ReplacementWalk (chain ++ [replacement]) replacement where
  distinct := by
    rw [List.map_append, List.nodup_append_comm]
    refine List.nodup_cons.mpr ⟨fun known => ?_, walk.distinct⟩
    obtain ⟨earlier, member, same⟩ := List.mem_map.mp known
    have repeated : chain.any (fun earlier => earlier.id == replacement.id) = true :=
      List.any_eq_true.mpr ⟨earlier, member, by simp [same]⟩
    rw [new] at repeated
    cases repeated
  ends := List.getLast?_concat
  linked := by
    intro earlier member
    rw [List.dropLast_concat] at member
    rw [← List.dropLast_append_getLast? order walk.ends] at member
    obtain before | last := List.mem_append.mp member
    · exact walk.linked earlier before
    · rw [List.mem_singleton.mp last]
      simpa using replaced

variable {others : EntryLifecycle → EntryLifecycle → Prop}

section Release

/-- What a release has seen: the claim of its first read, the broker evidence and filled quantity, and the claim read
again. -/
structure TerminalSight where
  claim : EntryExposureClaim
  symbol : String
  evidence : TerminalBrokerEvidence
  order : AlpacaOrderView
  brokerFilled : ℚ
  current : EntryExposureClaim

/-- The facts of a release that commits at `before`, with the stores of its reads. -/
structure TerminalSight.Supports (sight : TerminalSight) (others : EntryLifecycle → EntryLifecycle → Prop)
    (allowUnresolved : Bool) (start first checked locked before : EntryLifecycle) : Prop where
  began : Later others start first
  claimed : first.claim = some sight.claim
  symbol : sight.symbol = claimSymbol first.securities sight.claim
  admitted : sight.claim.status = .unresolved → allowUnresolved = true
  chain : ReplacementChain sight.evidence.chain sight.order
  identity : ∀ order ∈ sight.evidence.chain, normalizeSymbol order.symbol = sight.symbol ∧ order.side.toLower = "buy"
  nonExecutable : sight.order.status ∈ conclusivelyNonExecutableStatuses
  unheld : sight.evidence.position = none
  unopened : sight.evidence.openOrders = []
  filled : sight.evidence.brokerFilled = some sight.brokerFilled
  nonnegative : 0 ≤ sight.brokerFilled
  compared : Later others first checked
  accounted : fillsAccounted sight.brokerFilled checked = true
  entered : Later others checked locked
  reread : locked.claim = some sight.current
  unreleased : sight.current.releasedAt = none
  inactive : Observed others locked before fun seen => noActivePosition seen = true
  unopenedLocally : Observed others locked before fun seen => noOtherExecutableBuy sight.evidence seen = true
  accountedLocked : Observed others locked before fun seen => fillsAccounted sight.brokerFilled seen = true
  committed : before.claimStatus = some sight.current.status
  onward : Later others locked before

variable {allowUnresolved : Bool} {start before after : EntryLifecycle}

section Unreleasing

variable {eventType : ClaimEventType} {evidence : EvidenceFields}

section

variable (guaranteed : ∀ store after, after.released = store.released → contract.invariant store →
  contract.guarantee store after ∧ contract.invariant after)
include guaranteed

end

end Unreleasing

variable {brokerStatus : OrderStatus}

end Release

section Sample

variable (status : ClaimStatus)

end Sample

end AiTrader.Entry
