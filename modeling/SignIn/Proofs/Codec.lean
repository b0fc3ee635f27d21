import SignIn.Proofs.Json.Containers
import SignIn.Storage.Stored

/-!
# Written forms of what is stored

Profiles and reputations decode from their own written forms to exactly what was
written, and so do the entries of a store.  A record is gathered member by member in the
order in which its parts are written.
-/

namespace SignIn

open Json Json.Reader

namespace ActivityCounts

theorem reads (counts : ActivityCounts) : shape.reader.Reads counts.print counts := by
  apply Reads.record
  · apply Gathers.member rfl rfl ((Reads.word64 counts.followersCount).map _)
    apply Gathers.member rfl rfl ((Reads.word64 counts.electionsCreated).map _)
    apply Gathers.member rfl rfl ((Reads.word64 counts.castedVotes).map _)
    apply Gathers.member rfl rfl ((Reads.word64 counts.participationAchievement).map _)
    apply Gathers.member rfl rfl ((Reads.word64 counts.communitiesCount).map _)
    exact Gathers.done _
  · rfl

@[simp]
theorem decode_print (counts : ActivityCounts) :
    decode (Utf8.encode counts.print) = .ok counts :=
  (reads counts).decode

end ActivityCounts

namespace Points

theorem reads (points : Points) : shape.reader.Reads points.print points := by
  apply Reads.record
  · apply Gathers.member rfl rfl ((Reads.word64 points.ownerPoints).map _)
    apply Gathers.member rfl rfl ((Reads.word64 points.voterPoints).map _)
    apply Gathers.member rfl rfl ((Reads.word64 points.totalPoints).map _)
    exact Gathers.done _
  · rfl

@[simp]
theorem decode_print (points : Points) : decode (Utf8.encode points.print) = .ok points :=
  (reads points).decode

end Points

namespace ReputationData

theorem reads (data : ReputationData) : shape.reader.Reads data.print data := by
  have boosters : (Reader.dictionary Reader.boolean).Reads _ data.boosters :=
    Reads.dictionary Reads.boolean (encode_printObject _)
  apply Reads.record
  · apply Gathers.member rfl rfl ((ActivityCounts.reads data.activityCounts).map _)
    apply Gathers.member rfl rfl (boosters.map _)
    apply Gathers.member rfl rfl ((Points.reads data.points).map _)
    apply Gathers.member rfl rfl ((Reads.word32 data.totalReputation).map _)
    exact Gathers.done _
  · rfl

@[simp]
theorem decode_print (data : ReputationData) :
    decode (Utf8.encode data.print) = .ok data :=
  (reads data).decode

end ReputationData

namespace Reputation

theorem reads (reputation : Reputation) : shape.reader.Reads reputation.print reputation := by
  apply Reads.record
  · apply Gathers.member rfl rfl ((Reads.word32 reputation.reputation).map _)
    apply Gathers.member rfl rfl ((ReputationData.reads reputation.data).map _)
    exact Gathers.done _
  · rfl

@[simp]
theorem decode_print (reputation : Reputation) :
    decode (Utf8.encode reputation.print) = .ok reputation :=
  (reads reputation).decode

end Reputation

namespace Profile

theorem reads (profile : Profile) : shape.reader.Reads profile.print profile := by
  have verifications : (Reader.list Reader.text).Reads _ profile.verifications :=
    Reads.list fun item _ => Reads.text item
  apply Reads.record
  · apply Gathers.member rfl rfl ((Reads.word64 profile.fid).map _)
    apply Gathers.member rfl rfl ((Reads.text profile.username).map _)
    apply Gathers.member rfl rfl ((Reads.text profile.displayName).map _)
    apply Gathers.member rfl rfl ((Reads.text profile.bio).map _)
    apply Gathers.member rfl rfl ((Reads.text profile.pictureUrl).map _)
    apply Gathers.member rfl rfl ((Reads.text profile.custody).map _)
    apply Gathers.member rfl rfl (verifications.map _)
    exact Gathers.done _
  · rfl

@[simp]
theorem decode_print (profile : Profile) :
    decode (Utf8.encode profile.print) = .ok profile :=
  (reads profile).decode

end Profile

namespace Entries

theorem reads (entries : Entries) :
    (Reader.dictionary .text).Reads entries.print entries :=
  Reads.dictionary Reads.text (encode_printLines _)

@[simp]
theorem decode_print (entries : Entries) :
    decode (Utf8.encode entries.print) = .ok entries :=
  (reads entries).decode

end Entries

/-- Every value has one written form among all documents that decode to it: the form
decodes to the value, writing what any document decoded to gives a form that decodes to it
again and is written in the same way again, and documents are written in one form only if
they decode to one value. -/
structure Json.Canonical {α : Type} (decode : Octets → Except DecodeError α)
    (print : α → String) : Prop where
  decodes : ∀ value, decode (Utf8.encode (print value)) = .ok value
  stable : ∀ document value, decode document = .ok value →
    ∃ again, decode (Utf8.encode (print value)) = .ok again ∧ again = value ∧
      print again = print value
  separates : ∀ {first second : Octets} {firstValue secondValue : α},
    decode first = .ok firstValue → decode second = .ok secondValue →
      (print firstValue = print secondValue ↔ decode first = decode second)
  injective : Function.Injective print

/-- A written form that decodes to what was written is the only one. -/
theorem Json.Canonical.of_decodes {α : Type} {decode : Octets → Except DecodeError α}
    {print : α → String} (decodes : ∀ value, decode (Utf8.encode (print value)) = .ok value) :
    Canonical decode print := by
  have injective : Function.Injective print := by
    intro first second same
    have both : Except.ok first = decode (Utf8.encode (print second)) := by
      rw [← same, decodes]
    rw [decodes] at both
    exact Except.ok.inj both
  refine ⟨decodes, fun _ value _ => ⟨value, decodes value, rfl, rfl⟩, ?_, injective⟩
  intro first second firstValue secondValue firstRead secondRead
  rw [firstRead, secondRead]
  exact ⟨fun same => congrArg Except.ok (injective same),
    fun same => congrArg print (Except.ok.inj same)⟩

/-- Whatever numbers, texts, boosters and addresses they are made of, profiles, reputations
and the parts of a breakdown are stored in a canonical form. -/
theorem stored_forms_are_canonical :
    Canonical Profile.decode Profile.print ∧
      Canonical Reputation.decode Reputation.print ∧
      Canonical ReputationData.decode ReputationData.print ∧
      Canonical ActivityCounts.decode ActivityCounts.print ∧
      Canonical Points.decode Points.print :=
  ⟨.of_decodes Profile.decode_print, .of_decodes Reputation.decode_print,
    .of_decodes ReputationData.decode_print, .of_decodes ActivityCounts.decode_print,
    .of_decodes Points.decode_print⟩

/-- A document with members in another order, with members left out and with blanks is
written in the one form of the profile it decodes to. -/
example :
    (Profile.decode (Utf8.encode
      " \x7b \"username\" : \"\\u00e9\\n\", \"fid\": 1 \x7d ")).toOption.map Profile.print =
      some ("\x7b\"fid\":1,\"username\":\"é\\n\",\"displayName\":\"\",\"bio\":\"\"," ++
        "\"pfpUrl\":\"\",\"custody\":\"\",\"verifications\":[]\x7d") := by
  decide +kernel

end SignIn
