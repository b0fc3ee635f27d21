import SignIn.Proofs.MockServer.Tickets

/-!
# Tickets that redeem themselves

A ticket that nobody has redeemed or failed is pending until it has been asked about often
enough.  The question with which it is due is answered with a token of its own, which is
registered for the account of a fixture user at the same time, so that the token is good at
once.
-/

namespace SignIn

open Url Utf8 Json Json.Reader

namespace MockServer

def autoBreakdown : ReputationData where
  activityCounts :=
    { followersCount := 42, electionsCreated := 3, castedVotes := 17
      participationAchievement := 5, communitiesCount := 1 }
  boosters := (Dictionary.empty.insert "hasVotecasterNFTPass" false).insert
    "isVocdoniFarcasterFollower" true
  points := { ownerPoints := 30, voterPoints := 70, totalPoints := 100 }
  totalReputation := 12

/-- The session of whoever signs in with a ticket that has redeemed itself. -/
def autoSession (id : String) : SignedIn :=
  ⟨autoToken id, autoAccount.profile, ⟨autoAccount.reputation, autoBreakdown⟩⟩

theorem reads_autoBreakdown :
    ReputationData.shape.reader.Reads autoAccount.reputationData.print autoBreakdown := by
  have counts : ActivityCounts.shape.reader.Reads
      (Value.object [("castedVotes", .natural 17), ("communitiesCount", .natural 1),
        ("electionsCreated", .natural 3), ("followersCount", .natural 42),
        ("participationAchievement", .natural 5)]).print autoBreakdown.activityCounts := by
    apply Reads.record
    · apply Gathers.member rfl rfl ((Reads.word64 17).map _)
      apply Gathers.member rfl rfl ((Reads.word64 1).map _)
      apply Gathers.member rfl rfl ((Reads.word64 3).map _)
      apply Gathers.member rfl rfl ((Reads.word64 42).map _)
      apply Gathers.member rfl rfl ((Reads.word64 5).map _)
      exact Gathers.done _
    · rfl
  have boosters : (Reader.dictionary Reader.boolean).Reads
      (Value.object [("hasVotecasterNFTPass", .boolean false),
        ("isVocdoniFarcasterFollower", .boolean true)]).print autoBreakdown.boosters :=
    Reads.dictionary Reads.boolean (encode_printObject _)
  have points : Points.shape.reader.Reads
      (Value.object [("ownerPoints", .natural 30), ("totalPoints", .natural 100),
        ("voterPoints", .natural 70)]).print autoBreakdown.points := by
    apply Reads.record
    · apply Gathers.member rfl rfl ((Reads.word64 30).map _)
      apply Gathers.member rfl rfl ((Reads.word64 100).map _)
      apply Gathers.member rfl rfl ((Reads.word64 70).map _)
      exact Gathers.done _
    · rfl
  apply Reads.record
  · apply Gathers.member rfl rfl (counts.map _)
    apply Gathers.member rfl rfl (boosters.map _)
    apply Gathers.member rfl rfl (points.map _)
    apply Gathers.member rfl rfl ((Reads.word32 12).map _)
    exact Gathers.done _
  · rfl

theorem reputation_autoAccount :
    (Answer.ofText autoAccount.reportValue.print).reputation =
      .ok ⟨autoAccount.reputation, autoBreakdown⟩ := by
  rw [Answer.reputation_ofText, autoAccount.decode_reportValue reads_autoBreakdown]
  rfl

theorem printable_autoToken {id : String} (plain : isPlainSegment id = true) :
    isPrintableToken (autoToken id) = true := by
  obtain ⟨nonempty, characters⟩ : id ≠ "" ∧ ∀ character ∈ id.toList,
      isPlain character = true := by
    simpa [isPlainSegment] using plain
  have written : (autoToken id).toList = "fixture-token-".toList ++ id.toList := by
    rw [autoToken, String.toList_append]
  have visible : ∀ character ∈ id.toList, 0x20 < character.toNat ∧ character.toNat < 0x7F := by
    intro character member
    have := toNat_of_isPlain (characters character member)
    omega
  obtain ⟨front, last, ends⟩ : ∃ front last, id.toList = front ++ [last] :=
    ⟨_, _, (List.dropLast_concat_getLast (mt String.toList_eq_nil_iff.mp nonempty)).symm⟩
  have lastVisible := visible last (by simp [ends])
  simp only [isPrintableToken, Bool.and_eq_true, bne_iff_ne, List.all_eq_true]
  refine ⟨⟨?_, ?_⟩, ?_⟩
  · intro empty
    simp [empty] at written
  · rw [written, ends, ← List.append_assoc, List.getLast?_concat]
    rintro same
    obtain rfl := Option.some.inj same
    simp at lastVisible
  · intro character member
    rw [written] at member
    rcases List.mem_append.mp member with front | behind
    · have word : "fixture-token-".toList.all
          (fun letter => 0x20 ≤ letter.toNat && letter.toNat < 0x7F) = true := by decide
      simpa using List.all_eq_true.mp word character front
    · have := visible character behind
      simp
      omega

/-- A ticket that is pending after some questions, on a server that checks bearers honestly,
on which tickets redeem themselves after a number of questions and the token of this one has
not been registered. -/
structure Unredeemed (server : MockServer) (id : String) (threshold polls : Nat) : Prop where
  pending : server.tickets.get? id = some ⟨polls, .pending⟩
  threshold : server.autoRedeemAfter = some threshold
  unregistered : server.accounts.get? (autoToken id) = none
  honest : server.checkStatus = none

/-- A fresh ticket is one of these, whatever happened before. -/
theorem unredeemed_ofEvents {history : List Event} {id : String} {threshold : Nat}
    (decided : threshold? history = some threshold)
    (fresh : (ofEvents history).tickets.get? id = some {})
    (unregistered : (ofEvents history).accounts.get? (autoToken id) = none)
    (honest : (ofEvents history).checkStatus = none) :
    (ofEvents history).Unredeemed id threshold 0 where
  pending := fresh
  threshold := by
    have counted := counts_ofEvents history
    rw [counts, decided] at counted
    exact (Prod.mk.inj (Prod.mk.inj counted).2).2
  unregistered := unregistered
  honest := honest

variable {server : MockServer} {id : String} {threshold polls : Nat}

/-- As long as the ticket is not due a question is only counted. -/
theorem Unredeemed.poll_early (unredeemed : server.Unredeemed id threshold polls)
    (early : polls + 1 < threshold) :
    ∃ after, server.poll id = (after, statusReply .pending) ∧
      after.Unredeemed id threshold (polls + 1) := by
  have polled := polled_poll server id
  generalize server.poll id = answered at polled
  cases polled with
  | unknown absent => simp [unredeemed.pending] at absent
  | redeemed there itself =>
      obtain ⟨found, due, there, after, reached⟩ := itself
      simp only [unredeemed.pending, unredeemed.threshold, Option.some.injEq,
        IssuedTicket.mk.injEq] at there after
      omega
  | told there still =>
      rw [unredeemed.pending] at there
      obtain rfl := Option.some.inj there
      exact ⟨_, rfl, Dictionary.get?_insert_same _ _ _, unredeemed.threshold,
        unredeemed.unregistered, unredeemed.honest⟩

/-- The question with which it is due redeems it, with a token that is good from then on. -/
theorem Unredeemed.poll_due (unredeemed : server.Unredeemed id threshold polls)
    (due : threshold ≤ polls + 1) :
    ∃ after, server.poll id = (after, statusReply (autoStatus id)) ∧
      after.Offers id (autoToken id) autoAccount ∧ after.pollCount id = polls + 1 := by
  have polled := polled_poll server id
  generalize server.poll id = answered at polled
  cases polled with
  | unknown absent => simp [unredeemed.pending] at absent
  | @redeemed found there itself =>
      obtain rfl : polls = found := by simpa [unredeemed.pending] using there
      have unknown : ({ server with tickets := server.tickets.insert id ⟨polls + 1, autoStatus id⟩ } :
          MockServer).accounts.get? (autoToken id) = none := unredeemed.unregistered
      refine ⟨_, rfl, ?_⟩
      rw [enroll, unknown, Option.isSome_none, if_neg Bool.false_ne_true]
      refine ⟨⟨⟨polls + 1, Dictionary.get?_insert_same _ _ _⟩,
        Dictionary.get?_insert_same _ _ _, unredeemed.honest⟩, ?_⟩
      simp [pollCount, register]
  | told there still =>
      exact absurd ⟨polls, threshold, unredeemed.pending, unredeemed.threshold, due⟩ still

def issuedTicket (id : String) : Ticket :=
  ⟨id, "https://warpcast.com/~/sign-in-with-farcaster?channelToken=" ++ id⟩

theorem ticket_issue (server : MockServer) (id : String) :
    (Answer.ofText (server.issue id).2.body).ticket = .ok (issuedTicket id) := by
  have reads : Ticket.shape.reader.Reads (server.issue id).2.body (issuedTicket id) := by
    apply Reads.record
    · apply Gathers.member rfl rfl ((Reads.text id).map _)
      apply Gathers.member rfl rfl ((Reads.text (issuedTicket id).url).map _)
      exact Gathers.done _
    · rfl
  have decoded : Ticket.decode (Utf8.encode (server.issue id).2.body) = .ok (issuedTicket id) :=
    reads.decode
  rw [Answer.ticket_ofText, decoded]
  rfl

end MockServer

end SignIn
