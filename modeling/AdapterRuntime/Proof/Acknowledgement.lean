import AdapterRuntime.Proof.SourceLedger

/-!
# AdapterRuntime — acknowledged terminals

`HandleTerminalAcknowledgement` is the only way a retained terminal leaves the
client while its pair is attached. The acknowledgement has to name the kind of
the terminal, its identity and its digest; the acknowledgement of a terminal
that is gone is absorbed, and every other one is answered with a protocol error.

* `acknowledgement_cases` — the three verdicts, as the code reaches them.
* `acknowledgement_law` — the law in every reachable state.
-/

namespace AdapterRuntime.Model

open AdapterRuntime.Lib

variable {env : Env} {c c' : Client} {s : System}

-- ---------------------------------------------------------------------------
-- Verdicts
-- ---------------------------------------------------------------------------

namespace TerminalAcknowledgement

/-- The acknowledgement names a retained terminal by its kind, its identity and its
digest, and the identity is not in use. -/
def Releases (t : Tables) (acknowledgement : TerminalAcknowledgement) : Prop :=
  isCanonicalSha256 acknowledgement.terminalDigest = true ∧
  match acknowledgement.identity with
  | .workId workId =>
    workId ≠ [] ∧ t.workTokens.lookup workId = none ∧ t.sourceStreams.lookup workId = none ∧
      t.closedSources.lookup workId = none ∧
      ∃ entry, t.replay.lookup workId = some entry ∧
        entry.terminalDigest = acknowledgement.terminalDigest
  | .streamId streamId =>
    streamId ≠ [] ∧ t.workTokens.lookup streamId = none ∧
      t.sourceStreams.lookup streamId = none ∧ t.replay.lookup streamId = none ∧
      ∃ closed, t.closedSources.lookup streamId = some closed ∧
        closed.terminalDigest = acknowledgement.terminalDigest
  | .notSet => False

/-- The acknowledgement is well formed and its identity is in none of the tables. -/
def Absorbed (t : Tables) (acknowledgement : TerminalAcknowledgement) : Prop :=
  isCanonicalSha256 acknowledgement.terminalDigest = true ∧
  match acknowledgement.identity with
  | .workId id | .streamId id => id ≠ [] ∧ t.Unused id
  | .notSet => False

/-- The tables without the terminal the acknowledgement names, and without its
bytes. -/
def Removes (acknowledgement : TerminalAcknowledgement) (t t' : Tables) : Prop :=
  match acknowledgement.identity with
  | .workId workId => ∃ entry bytes, t.replay.lookup workId = some entry ∧
      bytes + entry.accountedBytes = t.terminalReplayBytes ∧
      t' = { t with replay := t.replay.erase workId, terminalReplayBytes := bytes }
  | .streamId streamId => ∃ closed bytes, t.closedSources.lookup streamId = some closed ∧
      bytes + closed.accountedBytes = t.sourceStateBytes ∧
      t' = { t with closedSources := t.closedSources.erase streamId, sourceStateBytes := bytes }
  | .notSet => False

end TerminalAcknowledgement

open TerminalAcknowledgement

/-- A removal is a change of the tables. -/
theorem TerminalAcknowledgement.Removes.ne {acknowledgement : TerminalAcknowledgement}
    {t t' : Tables} (h : acknowledgement.Removes t t') : t' ≠ t := by
  unfold Removes at h
  split at h
  · rename_i workId _
    obtain ⟨entry, bytes, hEntry, -, rfl⟩ := h
    intro hEq
    have hReplay := congrArg (fun t : Tables => t.replay.lookup workId) hEq
    simp only [AList.lookup_erase, hEntry] at hReplay
    cases hReplay
  · rename_i streamId _
    obtain ⟨closed, bytes, hClosed, -, rfl⟩ := h
    intro hEq
    have hSources := congrArg (fun t : Tables => t.closedSources.lookup streamId) hEq
    simp only [AList.lookup_erase, hClosed] at hSources
    cases hSources
  · exact h.elim

/-- What the accounting of the retained terminals guarantees an acknowledgement. -/
structure Tables.Covered (t : Tables) : Prop where
  replay : ∀ workId entry, t.replay.lookup workId = some entry →
    entry.accountedBytes ≤ t.terminalReplayBytes
  closed : ∀ streamId closed, t.closedSources.lookup streamId = some closed →
    closed.accountedBytes ≤ t.sourceStateBytes

/-- Every replay entry and every tombstone carries the digest of its own terminal. -/
theorem covered_of_reachable (h : (machine env).Reachable s) : s.client.tables.Covered := by
  refine ⟨fun workId entry hEntry => (ledger_of_reachable h).accounted_le hEntry, ?_⟩
  intro streamId closed hClosed
  have hPart := Store.le_total ClosedSourceState.accountedBytes hClosed
  have hCovers := (sourceLedger_of_reachable h).covers
  unfold Tables.sourceWeight at hCovers
  omega

/-- The verdicts of `HandleTerminalAcknowledgement`. -/
def AcknowledgementVerdict (c : Client) (acknowledgement : TerminalAcknowledgement)
    (sequence : Nat) : Prop :=
  (acknowledgement.Releases c.tables ∧ ∃ c', acknowledgement.Removes c.tables c'.tables ∧
    handleTerminalAcknowledgement c acknowledgement sequence = (.done, c')) ∨
  (acknowledgement.Absorbed c.tables ∧ ¬acknowledgement.Releases c.tables ∧
    handleTerminalAcknowledgement c acknowledgement sequence = (.done, c)) ∨
  (¬acknowledgement.Absorbed c.tables ∧ ¬acknowledgement.Releases c.tables ∧ ∃ message,
    handleTerminalAcknowledgement c acknowledgement sequence =
      (.protocolError sequence message, c))

/-- The verdict on an acknowledgement with a Work identity. -/
theorem acknowledgement_work (hCovered : c.tables.Covered)
    {acknowledgement : TerminalAcknowledgement} {sequence : Nat} {workId : Text}
    (hIdentity : acknowledgement.identity = .workId workId)
    (hCanonical : isCanonicalSha256 acknowledgement.terminalDigest = true) :
    AcknowledgementVerdict c acknowledgement sequence := by
  simp only [AcknowledgementVerdict, Releases, Absorbed, Removes, handleTerminalAcknowledgement,
    hIdentity, hCanonical, Tables.Unused, Bool.not_true, Bool.false_eq_true, if_false, true_and]
  by_cases hEmpty : workId = []
  · exact .inr (.inr ⟨by simp [hEmpty], by simp [hEmpty], _, by rw [if_pos hEmpty]⟩)
  · rw [if_neg hEmpty]
    by_cases hActive : (c.tables.workTokens.lookup workId).isSome ∨
        (c.tables.sourceStreams.lookup workId).isSome
    · refine .inr (.inr ⟨?_, ?_, _, by rw [if_pos hActive]⟩)
      · rintro ⟨-, -, hSource, hToken, -⟩
        simp [hSource, hToken] at hActive
      · rintro ⟨-, hToken, hSource, -⟩
        simp [hSource, hToken] at hActive
    · rw [if_neg hActive]
      simp only [not_or, Bool.not_eq_true, Option.isSome_eq_false_iff,
        Option.isNone_iff_eq_none] at hActive
      by_cases hClosed : (c.tables.closedSources.lookup workId).isSome
      · refine .inr (.inr ⟨?_, ?_, _, by rw [if_pos hClosed]⟩)
        · rintro ⟨-, hNone, -⟩
          simp [hNone] at hClosed
        · rintro ⟨-, -, -, hNone, -⟩
          simp [hNone] at hClosed
      · rw [if_neg hClosed]
        simp only [Bool.not_eq_true, Option.isSome_eq_false_iff,
          Option.isNone_iff_eq_none] at hClosed
        cases hEntry : c.tables.replay.lookup workId with
        | none => exact .inr (.inl ⟨⟨hEmpty, hClosed, hActive.2, hActive.1, rfl⟩, by simp, rfl⟩)
        | some entry =>
          simp only
          by_cases hDigest : entry.terminalDigest = acknowledgement.terminalDigest
          · rw [if_neg (not_not.mpr hDigest)]
            have hBytes := hCovered.replay workId entry hEntry
            exact .inl ⟨⟨hEmpty, hActive.1, hActive.2, hClosed, entry, rfl, hDigest⟩, _,
              ⟨entry, _, rfl, Nat.sub_add_cancel hBytes, rfl⟩, rfl⟩
          · refine .inr (.inr ⟨by simp, ?_, _, by rw [if_pos hDigest]⟩)
            rintro ⟨-, -, -, -, other, hOther, hSame⟩
            cases hOther
            exact hDigest hSame

/-- The verdict on an acknowledgement with a source identity. -/
theorem acknowledgement_source (hCovered : c.tables.Covered)
    {acknowledgement : TerminalAcknowledgement} {sequence : Nat} {streamId : Text}
    (hIdentity : acknowledgement.identity = .streamId streamId)
    (hCanonical : isCanonicalSha256 acknowledgement.terminalDigest = true) :
    AcknowledgementVerdict c acknowledgement sequence := by
  simp only [AcknowledgementVerdict, Releases, Absorbed, Removes, handleTerminalAcknowledgement,
    hIdentity, hCanonical, Tables.Unused, Bool.not_true, Bool.false_eq_true, if_false, true_and]
  by_cases hEmpty : streamId = []
  · exact .inr (.inr ⟨by simp [hEmpty], by simp [hEmpty], _, by rw [if_pos hEmpty]⟩)
  · rw [if_neg hEmpty]
    by_cases hActive : (c.tables.sourceStreams.lookup streamId).isSome ∨
        (c.tables.workTokens.lookup streamId).isSome
    · refine .inr (.inr ⟨?_, ?_, _, by rw [if_pos hActive]⟩)
      · rintro ⟨-, -, hSource, hToken, -⟩
        simp [hSource, hToken] at hActive
      · rintro ⟨-, hToken, hSource, -⟩
        simp [hSource, hToken] at hActive
    · rw [if_neg hActive]
      simp only [not_or, Bool.not_eq_true, Option.isSome_eq_false_iff,
        Option.isNone_iff_eq_none] at hActive
      by_cases hReplay : (c.tables.replay.lookup streamId).isSome
      · refine .inr (.inr ⟨?_, ?_, _, by rw [if_pos hReplay]⟩)
        · rintro ⟨-, -, -, -, hNone⟩
          simp [hNone] at hReplay
        · rintro ⟨-, -, -, hNone, -⟩
          simp [hNone] at hReplay
      · rw [if_neg hReplay]
        simp only [Bool.not_eq_true, Option.isSome_eq_false_iff,
          Option.isNone_iff_eq_none] at hReplay
        cases hClosed : c.tables.closedSources.lookup streamId with
        | none => exact .inr (.inl ⟨⟨hEmpty, rfl, hActive.1, hActive.2, hReplay⟩, by simp, rfl⟩)
        | some closed =>
          simp only
          by_cases hDigest : closed.terminalDigest = acknowledgement.terminalDigest
          · -- a canonical digest is not empty, and the ledger covers the charge
            have hSome : closed.terminalDigest ≠ [] := by
              intro hNone
              rw [← hDigest, hNone] at hCanonical
              exact absurd hCanonical (by decide)
            have hBytes := hCovered.closed streamId closed hClosed
            rw [if_neg (not_or.mpr ⟨hSome, not_not.mpr hDigest⟩), if_pos hBytes]
            exact .inl ⟨⟨hEmpty, hActive.2, hActive.1, hReplay, closed, rfl, hDigest⟩, _,
              ⟨closed, _, rfl, Nat.sub_add_cancel hBytes, rfl⟩, rfl⟩
          · refine .inr (.inr ⟨by simp, ?_, _, by rw [if_pos (.inr hDigest)]⟩)
            rintro ⟨-, -, -, -, other, hOther, hSame⟩
            cases hOther
            exact hDigest hSame

/-- The verdicts of `HandleTerminalAcknowledgement`. -/
theorem acknowledgement_cases (hCovered : c.tables.Covered)
    (acknowledgement : TerminalAcknowledgement) (sequence : Nat) :
    AcknowledgementVerdict c acknowledgement sequence := by
  by_cases hCanonical : isCanonicalSha256 acknowledgement.terminalDigest = true
  · cases hIdentity : acknowledgement.identity with
    | workId workId => exact acknowledgement_work hCovered hIdentity hCanonical
    | streamId streamId => exact acknowledgement_source hCovered hIdentity hCanonical
    | notSet =>
      simp only [AcknowledgementVerdict, Releases, Absorbed, handleTerminalAcknowledgement,
        hIdentity, hCanonical, Bool.not_true, Bool.false_eq_true, if_false]
      exact .inr (.inr ⟨by simp, by simp, _, rfl⟩)
  · have hRefused : (!isCanonicalSha256 acknowledgement.terminalDigest) = true := by
      simpa using hCanonical
    refine .inr (.inr ⟨fun h => hCanonical h.1, fun h => hCanonical h.1, ?_⟩)
    simp only [handleTerminalAcknowledgement, hRefused, if_true]
    exact ⟨_, rfl⟩

/-- After a removal the same acknowledgement is absorbed. -/
theorem TerminalAcknowledgement.Removes.absorbed {acknowledgement : TerminalAcknowledgement}
    {t t' : Tables} (hReleases : acknowledgement.Releases t) (h : acknowledgement.Removes t t') :
    acknowledgement.Absorbed t' := by
  obtain ⟨hCanonical, hNamed⟩ := hReleases
  refine ⟨hCanonical, ?_⟩
  unfold Removes at h
  split at h <;> rename_i hIdentity <;> simp only [hIdentity] at hNamed ⊢
  · obtain ⟨entry, bytes, -, -, rfl⟩ := h
    obtain ⟨hId, hToken, hSource, hClosed, -⟩ := hNamed
    exact ⟨hId, hClosed, hSource, hToken, AList.lookup_erase _ _⟩
  · obtain ⟨closed, bytes, -, -, rfl⟩ := h
    obtain ⟨hId, hToken, hSource, hReplay, -⟩ := hNamed
    exact ⟨hId, AList.lookup_erase _ _, hSource, hToken, hReplay⟩

/-- An absorbed acknowledgement does nothing. -/
theorem handleTerminalAcknowledgement_absorbed {acknowledgement : TerminalAcknowledgement}
    (h : acknowledgement.Absorbed c.tables) (sequence : Nat) :
    handleTerminalAcknowledgement c acknowledgement sequence = (.done, c) := by
  obtain ⟨hCanonical, hNamed⟩ := h
  cases hIdentity : acknowledgement.identity with
  | workId id | streamId id =>
    simp only [hIdentity] at hNamed
    obtain ⟨hId, hClosed, hSource, hToken, hReplay⟩ := hNamed
    simp [handleTerminalAcknowledgement, hIdentity, hCanonical, hId, hClosed, hSource, hToken,
      hReplay]
  | notSet =>
    simp only [hIdentity] at hNamed

-- ---------------------------------------------------------------------------
-- The law
-- ---------------------------------------------------------------------------

/-- Reporting a protocol error leaves the tables alone. -/
theorem tables_protocolError (fence : SessionFence) (sequence : Nat) (message : Text) :
    (followUpStep env c fence (.protocolError sequence message)).2.tables = c.tables := by
  cases hStep : followUpStep env c fence (.protocolError sequence message) with
  | mk pc' c' =>
    cases followUpStep_branch hStep with
    | reported hQueue | unreported hQueue =>
      obtain ⟨-, -, rfl⟩ | ⟨-, -, hRefused⟩ := Client.queueWorkLocked_cases hQueue
      · rfl
      · exact congrArg Core.tables hRefused.core

/-- An acknowledgement removes an entry exactly when it names a retained terminal by
its kind, its identity and its digest, and then it removes that entry and its bytes
and nothing else. Otherwise the tables stay, and a protocol error answers it unless
its identity is gone. Repeating the acknowledgement of a removal does nothing. -/
theorem acknowledgement_law (h : (machine env).Reachable s)
    (acknowledgement : TerminalAcknowledgement) (sequence : Nat) (todo : FollowUp) (c' : Client)
    (hHandle : handleTerminalAcknowledgement s.client acknowledgement sequence = (todo, c')) :
    (c'.tables ≠ s.client.tables ↔ acknowledgement.Releases s.client.tables) ∧
    (acknowledgement.Releases s.client.tables →
      todo = .done ∧ acknowledgement.Removes s.client.tables c'.tables ∧
      ∀ again, handleTerminalAcknowledgement c' acknowledgement again = (.done, c')) ∧
    (¬acknowledgement.Releases s.client.tables → c' = s.client ∧
      ((todo = .done ∧ acknowledgement.Absorbed s.client.tables) ∨
        ((∃ message, todo = .protocolError sequence message) ∧
          ¬acknowledgement.Absorbed s.client.tables))) ∧
    ∀ fence message, (followUpStep env c' fence (.protocolError sequence message)).2.tables =
      c'.tables := by
  have hVerdict := acknowledgement_cases (covered_of_reachable h) acknowledgement sequence
  refine ⟨?_, ?_, ?_, fun fence message => tables_protocolError fence sequence message⟩
  · obtain ⟨hReleases, c₁, hRemoves, hEq⟩ | ⟨-, hNot, hEq⟩ | ⟨-, hNot, message, hEq⟩ := hVerdict <;>
      rw [hEq, Prod.mk.injEq] at hHandle <;> obtain ⟨-, rfl⟩ := hHandle
    · exact ⟨fun _ => hReleases, fun _ => hRemoves.ne⟩
    · exact ⟨fun hNe => absurd rfl hNe, fun hReleases => absurd hReleases hNot⟩
    · exact ⟨fun hNe => absurd rfl hNe, fun hReleases => absurd hReleases hNot⟩
  · intro hReleases
    obtain ⟨-, c₁, hRemoves, hEq⟩ | ⟨-, hNot, -⟩ | ⟨-, hNot, -⟩ := hVerdict
    · rw [hEq, Prod.mk.injEq] at hHandle
      obtain ⟨rfl, rfl⟩ := hHandle
      exact ⟨rfl, hRemoves,
        handleTerminalAcknowledgement_absorbed (hRemoves.absorbed hReleases)⟩
    · exact absurd hReleases hNot
    · exact absurd hReleases hNot
  · intro hNot
    obtain ⟨hReleases, -⟩ | ⟨hAbsorbed, -, hEq⟩ | ⟨hAbsorbed, -, message, hEq⟩ := hVerdict
    · exact absurd hReleases hNot
    · rw [hEq, Prod.mk.injEq] at hHandle
      obtain ⟨rfl, rfl⟩ := hHandle
      exact ⟨rfl, .inl ⟨rfl, hAbsorbed⟩⟩
    · rw [hEq, Prod.mk.injEq] at hHandle
      obtain ⟨rfl, rfl⟩ := hHandle
      exact ⟨rfl, .inr ⟨⟨message, rfl⟩, hAbsorbed⟩⟩

section Runs

open Deployment

/-- The exact acknowledgement of the query `w`. -/
def queryAcknowledgement : TerminalAcknowledgement :=
  { identity := .workId (text "w"), terminalDigest := digestOf (frameText (answer "w")) }

/-- A query has been answered: its acknowledgement removes the terminal once. -/
theorem acknowledgement_law_query :
    ∃ s c', (machine deployment).Reachable s ∧
      handleTerminalAcknowledgement s.client queryAcknowledgement 2 = (.done, c') ∧
      c'.tables ≠ s.client.tables ∧
      handleTerminalAcknowledgement c' queryAcknowledgement 3 = (.done, c') := by
  obtain ⟨s, hReach, hRun⟩ := (machine deployment).exists_reaches_of_runWith (fun _ _ => True)
    (bringUp ++ hostFrame 1 1 (unaryFrame "w") ++ runQuery 0 ++ worker 0 2)
    (fun s => (s.client.tables.workTokens.lookup (text "w")).isNone &&
      (s.client.tables.sourceStreams.lookup (text "w")).isNone &&
      (s.client.tables.closedSources.lookup (text "w")).isNone &&
      (s.client.tables.replay.lookup (text "w")).any fun entry =>
        entry.terminalDigest == digestOf (frameText (answer "w")))
    (by decide +kernel)
  simp only [Option.any_eq_true, Bool.and_eq_true, beq_iff_eq, Option.isNone_iff_eq_none] at hRun
  obtain ⟨⟨⟨hToken, hSource⟩, hClosed⟩, entry, hEntry, hDigest⟩ := hRun
  have hReleases : queryAcknowledgement.Releases s.client.tables :=
    ⟨by decide +kernel, by decide +kernel, hToken, hSource, hClosed, entry, hEntry, hDigest⟩
  obtain ⟨hChanges, hRemoves, -, -⟩ := acknowledgement_law hReach queryAcknowledgement 2 _ _ rfl
  obtain ⟨hDone, -, hAgain⟩ := hRemoves hReleases
  exact ⟨s, _, hReach, Prod.ext hDone rfl, hChanges.mpr hReleases, hAgain 3⟩

end Runs

end AdapterRuntime.Model
