import SignIn.Proofs.Codec
import SignIn.Proofs.Json.Refusing
import SignIn.Proofs.Records
import SignIn.MockServer.Router

/-!
# What a client makes of a mock server's replies

An account is told in two forms, and its reputation in two replies.  Both forms yield the
same profile.  Whether a reply about the reputation can be read hangs on the breakdown alone,
which may be any value at all, so that both replies can be read, and then say the same, or
neither can.
-/

namespace SignIn

open Json Json.Reader

theorem ReputationData.decisive : ReputationData.shape.reader.Decisive :=
  decisive_of_judges (Shape.judges ReputationData.judges_fields)

namespace MockAccount

/-- Whom an account belongs to. -/
def profile (account : MockAccount) : Profile where
  fid := account.fid
  username := account.username
  displayName := account.displayName
  bio := account.bio
  pictureUrl := account.pictureUrl
  custody := account.custody
  verifications := account.addresses

theorem reads_texts (items : List String) :
    (Reader.list Reader.text).Reads (Value.texts items).print items := by
  have reads : (Reader.list Reader.text).Reads _ items := Reads.list fun item _ => Reads.text item
  have written : (Value.texts items).print = printList (items.map printText) := by
    rw [Value.texts, Value.print, Value.printItems_eq, List.map_map]
    rfl
  rw [written]
  exact reads

theorem reads_present (text : String) :
    (Reader.optional Reader.text).Reads (Value.text text).print (some text) := by
  refine (Reads.text text).optional ?_
  rw [encode_printText, List.cons_append, List.head?_cons]
  decide

theorem reads_profileValue (account : MockAccount) :
    Profile.shape.reader.Reads account.profileValue.print account.profile := by
  apply Reads.record
  · apply Gathers.member rfl rfl ((Reads.text account.bio).map _)
    apply Gathers.member rfl rfl ((Reads.text account.custody).map _)
    apply Gathers.member rfl rfl ((Reads.text account.displayName).map _)
    apply Gathers.member rfl rfl ((Reads.word64 account.fid).map _)
    apply Gathers.member rfl rfl ((Reads.text account.pictureUrl).map _)
    apply Gathers.member rfl rfl ((Reads.text account.username).map _)
    apply Gathers.member rfl rfl ((reads_texts account.addresses).map _)
    exact Gathers.done _
  · rfl

theorem reads_userValue (account : MockAccount) :
    Profile.userShape.reader.Reads account.userValue.print account.profile := by
  apply Reads.record
  · apply Gathers.member rfl rfl ((reads_texts account.addresses).map _)
    apply Gathers.member rfl rfl ((reads_present account.pictureUrl).map _)
    apply Gathers.member rfl rfl ((reads_present account.bio).map _)
    apply Gathers.skipped rfl (Value.skips _)
    apply Gathers.member rfl rfl ((Reads.text account.custody).map _)
    apply Gathers.member rfl rfl ((Reads.text account.displayName).map _)
    apply Gathers.skipped rfl (Value.skips _)
    apply Gathers.skipped rfl (Value.skips _)
    apply Gathers.skipped rfl (Value.skips _)
    apply Gathers.skipped rfl (Value.skips _)
    apply Gathers.member rfl rfl ((Reads.word64 account.fid).map _)
    apply Gathers.member rfl rfl ((Reads.text account.username).map _)
    exact Gathers.done _
  · rfl

open Value in
def reportValue (account : MockAccount) : Value :=
  object [
    ("reputation", natural account.reputation.toNat),
    ("reputationData", account.reputationData)]

open Value in
def accountValue (account : MockAccount) : Value :=
  object [
    ("mutedUsers", texts account.mutedUsers),
    ("reputation", natural account.reputation.toNat),
    ("reputationData", account.reputationData),
    ("user", account.userValue),
    ("warpcastApiEnabled", boolean false)]

/-- A redeemed ticket is read as the token and the profile that it was redeemed with. -/
theorem decode_redeemed (token : String) (account : MockAccount) :
    Redemption.decode (Utf8.encode
        (MockServer.statusReply (.redeemed token account.profileValue)).body) =
      .ok ⟨token, account.profile⟩ := by
  apply Reads.decode
  apply Reads.record
  · apply Gathers.member rfl rfl ((Reads.text token).map _)
    apply Gathers.member rfl rfl (account.reads_profileValue.map _)
    exact Gathers.done _
  · rfl

section Breakdown

variable {account : MockAccount}

theorem decode_reportValue {data : ReputationData}
    (reads : ReputationData.shape.reader.Reads account.reputationData.print data) :
    Reputation.decodeReport (Utf8.encode account.reportValue.print) =
      .ok ⟨account.reputation, data⟩ := by
  apply Reads.decode
  apply Reads.record
  · apply Gathers.member rfl rfl ((Reads.word32 account.reputation).map _)
    apply Gathers.member rfl rfl (reads.map _)
    exact Gathers.done _
  · rfl

theorem decode_accountValue {data : ReputationData}
    (reads : ReputationData.shape.reader.Reads account.reputationData.print data) :
    Account.decode (Utf8.encode account.accountValue.print) =
      .ok ⟨account.profile, account.reputation, data⟩ := by
  apply Reads.decode
  apply Reads.record
  · apply Gathers.skipped rfl (Value.skips _)
    apply Gathers.member rfl rfl ((Reads.word32 account.reputation).map _)
    apply Gathers.member rfl rfl (reads.map _)
    apply Gathers.member rfl rfl (account.reads_userValue.map _)
    apply Gathers.skipped rfl (Value.skips _)
    exact Gathers.done _
  · rfl

theorem decode_reportValue_of_refuses
    (refuses : ReputationData.shape.reader.Refuses account.reputationData.print) :
    ∃ error, Reputation.decodeReport (Utf8.encode account.reportValue.print) = .error error := by
  apply Refuses.decode
  apply Refuses.of_balks
  apply Balks.member rfl rfl ((Reads.word32 account.reputation).map _)
  exact Balks.refused rfl rfl (refuses.map _)

theorem decode_accountValue_of_refuses
    (refuses : ReputationData.shape.reader.Refuses account.reputationData.print) :
    ∃ error, Account.decode (Utf8.encode account.accountValue.print) = .error error := by
  apply Refuses.decode
  apply Refuses.of_balks
  apply Balks.skipped rfl (Value.skips _)
  apply Balks.member rfl rfl ((Reads.word32 account.reputation).map _)
  exact Balks.refused rfl rfl (refuses.map _)

end Breakdown

end MockAccount

end SignIn
