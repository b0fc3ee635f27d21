import SignIn.Proofs.Json.Filling
import SignIn.Reply

/-!
# Fields of records

Whatever value stands where a field is due, the field takes it or declines it, and so does every
record.
-/

namespace SignIn

open Json

theorem ActivityCounts.judges_fields :
    ∀ field ∈ ActivityCounts.shape.fields, ∀ tree, field.reader.Judges tree := by
  simp only [ActivityCounts.shape, List.forall_mem_cons, List.not_mem_nil, false_implies,
    implies_true, and_true]
  refine ⟨?_, ?_, ?_, ?_, ?_⟩
  all_goals exact fun tree => (Reader.judges_word64 tree).map _

theorem Points.judges_fields :
    ∀ field ∈ Points.shape.fields, ∀ tree, field.reader.Judges tree := by
  simp only [Points.shape, List.forall_mem_cons, List.not_mem_nil, false_implies, implies_true,
    and_true]
  refine ⟨?_, ?_, ?_⟩
  all_goals exact fun tree => (Reader.judges_word64 tree).map _

theorem ReputationData.judges_fields :
    ∀ field ∈ ReputationData.shape.fields, ∀ tree, field.reader.Judges tree := by
  simp only [ReputationData.shape, List.forall_mem_cons, List.not_mem_nil, false_implies,
    implies_true, and_true]
  exact ⟨fun tree => (Shape.judges ActivityCounts.judges_fields tree).map _,
    fun tree => (Reader.judges_dictionary Reader.judges_boolean tree).map _,
    fun tree => (Shape.judges Points.judges_fields tree).map _,
    fun tree => (Reader.judges_word32 tree).map _⟩

theorem Reputation.judges_reportFields :
    ∀ field ∈ Reputation.reportShape.fields, ∀ tree, field.reader.Judges tree := by
  simp only [Reputation.reportShape, List.forall_mem_cons, List.not_mem_nil, false_implies,
    implies_true, and_true]
  exact ⟨fun tree => (Reader.judges_word32 tree).map _,
    fun tree => (Shape.judges ReputationData.judges_fields tree).map _⟩

theorem Profile.judges_fields :
    ∀ field ∈ Profile.shape.fields, ∀ tree, field.reader.Judges tree := by
  simp only [Profile.shape, List.forall_mem_cons, List.not_mem_nil, false_implies, implies_true,
    and_true]
  refine ⟨fun tree => (Reader.judges_word64 tree).map _, ?_, ?_, ?_, ?_, ?_,
    fun tree => (Reader.judges_list Reader.judges_text tree).map _⟩
  all_goals exact fun tree => (Reader.judges_text tree).map _

theorem Profile.judges_userFields :
    ∀ field ∈ Profile.userShape.fields, ∀ tree, field.reader.Judges tree := by
  simp only [Profile.userShape, List.forall_mem_cons, List.not_mem_nil, false_implies,
    implies_true, and_true]
  exact ⟨fun tree => (Reader.judges_word64 tree).map _,
    fun tree => (Reader.judges_text tree).map _,
    fun tree => (Reader.judges_text tree).map _,
    fun tree => (Reader.judges_optional Reader.judges_text tree).map _,
    fun tree => (Reader.judges_optional Reader.judges_text tree).map _,
    fun tree => (Reader.judges_text tree).map _,
    fun tree => (Reader.judges_list Reader.judges_text tree).map _⟩

theorem Account.judges_fields :
    ∀ field ∈ Account.shape.fields, ∀ tree, field.reader.Judges tree := by
  simp only [Account.shape, List.forall_mem_cons, List.not_mem_nil, false_implies, implies_true,
    and_true]
  exact ⟨fun tree => (Shape.judges Profile.judges_userFields tree).map _,
    fun tree => (Reader.judges_word32 tree).map _,
    fun tree => (Shape.judges ReputationData.judges_fields tree).map _⟩

end SignIn
