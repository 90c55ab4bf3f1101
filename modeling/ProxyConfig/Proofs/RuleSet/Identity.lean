import ProxyConfig.Proofs.RuleSet.Tag
import ProxyConfig.Proofs.Text.ByteOrder

/-!
# One identity in every encoding

A rule-set is known by its tag, by a label in documents, by a file name on disk and by an address at
its source.  All of them tell the same rule-sets apart, and the order of tags is that of the bytes of
their labels.

Main results:

- `base_append_slashes`, `url_append_slashes`: slashes at the end of the base address do not count.
- `url_front`: the text in front of an address.
- `encodings_identify_tag`: tags, labels, file names and addresses.
-/

namespace ProxyConfig
namespace RuleSetSource

/-- The source with slashes appended to its base address. -/
def withSlashes (source : RuleSetSource) (count : Nat) : RuleSetSource :=
  { source with baseUrl := source.baseUrl ++ String.ofList (List.replicate count '/') }

variable {source : RuleSetSource} {count : Nat} {tag : RuleSetTag}

theorem base_append_slashes : (source.withSlashes count).base = source.base := by
  have hslashes : ∀ c ∈ List.replicate count '/', (c == '/') = true := by
    intro c hc
    rw [List.eq_of_mem_replicate hc]
    rfl
  simp only [base, withSlashes, String.toList_append, String.toList_ofList, List.reverse_append,
    List.reverse_replicate]
  rw [List.dropWhile_append_of_pos hslashes]

theorem url_append_slashes : (source.withSlashes count).url tag = source.url tag := by
  have hdirect : (source.withSlashes count).directUrl tag = source.directUrl tag := by
    simp only [directUrl, base_append_slashes]
  unfold url
  rw [hdirect]
  rfl

/-- A text in front of an address is put before it as it is. -/
theorem url_front (front : String) :
    { source with front := some front }.url tag =
      front ++ { source with front := none }.url tag := by
  have hdirect : ∀ before, { source with front := before }.directUrl tag = source.directUrl tag :=
    fun _ => rfl
  simp [url, hdirect]

end RuleSetSource

namespace RuleSetTag

open Text

variable {a b : RuleSetTag}

/-- Tags are ordered like the bytes of their labels. -/
theorem precedes_iff_utf8Bytes_lt :
    a.precedes b = true ↔ utf8Bytes a.label < utf8Bytes b.label := by
  rw [utf8Bytes_lt_iff, label_lt_label_iff]

/-- Two tags compare like the bytes of their labels, and they differ exactly if their labels, their
file names and their addresses at any source differ.  Slashes at the end of the base address change
no address, and a text in front of the addresses is put before them as it is. -/
theorem encodings_identify_tag (a b : RuleSetTag) (source : RuleSetSource) :
    (a.precedes b = true ↔ utf8Bytes a.label < utf8Bytes b.label) ∧
    (b.precedes a = true ↔ utf8Bytes b.label < utf8Bytes a.label) ∧
    (a = b ↔ utf8Bytes a.label = utf8Bytes b.label) ∧
    (a.label = b.label ↔ a = b) ∧
    (a.fileName = b.fileName ↔ a = b) ∧
    (source.url a = source.url b ↔ a = b) ∧
    (∀ count, (source.withSlashes count).url a = source.url a) ∧
    ∀ front, { source with front := some front }.url a =
      front ++ { source with front := none }.url a := by
  refine ⟨precedes_iff_utf8Bytes_lt, precedes_iff_utf8Bytes_lt, ?_, ⟨label_inj, congrArg label⟩,
    ⟨fileName_inj, congrArg fileName⟩, ⟨url_inj, congrArg source.url⟩,
    fun _ => RuleSetSource.url_append_slashes, RuleSetSource.url_front⟩
  rw [utf8Bytes_inj]
  exact ⟨congrArg label, label_inj⟩

end RuleSetTag
end ProxyConfig
