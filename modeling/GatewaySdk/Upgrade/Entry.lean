import GatewaySdk.Text.Compact
import GatewaySdk.Upgrade.VerifySound

/-! The text of a log entry that Rekor signs: the compact object of its four fields, and no
other entry's text. -/
namespace GatewaySdk.Upgrade
open GatewaySdk.Text

/-- The entry as an object, its fields as the payload has them. -/
def RekorPayload.fields (p : RekorPayload) : List (String × Compact.Scalar) :=
  [("body",.text p.body),("integratedTime",.integer p.integratedTime),("logIndex",.integer p.logIndex),
    ("logID",.text p.logId)]

theorem fields_sorted (p : RekorPayload) : p.fields.insertionSort (fun a b => a.1 ≤ b.1) =
    [("body",.text p.body),("integratedTime",.integer p.integratedTime),("logID",.text p.logId),
      ("logIndex",.integer p.logIndex)] := by
  have bodyFirst : ("body" : String) ≤ "integratedTime" := by decide
  have timeNext : ("integratedTime" : String) ≤ "logID" := by decide
  have idBefore : ¬ ("logIndex" : String) ≤ "logID" := by decide
  simp only [RekorPayload.fields,List.insertionSort_cons,List.insertionSort_nil,List.orderedInsert,idBefore,timeNext,
    bodyFirst,if_true,if_false]

/-- Where nothing needs escaping, the text is the entry's compact JSON. -/
theorem canonical_object {p : RekorPayload} (body : Compact.Unescaped p.body.toList)
    (logId : Compact.Unescaped p.logId.toList) : (canonical p).toList = Compact.object p.fields := by
  have bodyKey : Compact.quote "body".toList = "\"body\"".toList := by decide
  have timeKey : Compact.quote "integratedTime".toList = "\"integratedTime\"".toList := by decide
  have idKey : Compact.quote "logID".toList = "\"logID\"".toList := by decide
  have indexKey : Compact.quote "logIndex".toList = "\"logIndex\"".toList := by decide
  have index : toString (p.logIndex : Int) = toString p.logIndex := rfl
  rw [canonical_toList,Compact.object,fields_sorted]
  simp only [List.map_cons,List.map_nil,Compact.member,Compact.Scalar.write,bodyKey,timeKey,idKey,indexKey,
    Compact.quote_unescaped body,Compact.quote_unescaped logId,index]
  simp [List.intercalate]

/-- One text, one entry; and the text is the entry's compact JSON with sorted keys. -/
theorem canonical_text_exact (p q : RekorPayload) :
    ((∃ bytes, Base64.decode (utf8 p.body) = some bytes) → (∃ bytes, Base64.decode (utf8 q.body) = some bytes) →
      canonical p = canonical q → p = q) ∧
    (Compact.Unescaped p.body.toList → Compact.Unescaped p.logId.toList →
      (canonical p).toList = Compact.object p.fields) := by
  refine ⟨fun decodesP decodesQ same => ?_,canonical_object⟩
  obtain ⟨_,bodyP⟩ := decodesP
  obtain ⟨_,bodyQ⟩ := decodesQ
  exact canonical_injective (body_clean bodyP) (body_clean bodyQ) same

/-- A quote in the log's id and an earlier time make another text. -/
theorem sample_canonical_text :
    canonical ⟨"AQ==",5,"c0d2",7⟩ ≠ canonical ⟨"AQ==",-5,"c0d2\",",7⟩ ∧
      (canonical ⟨"AQ==",5,"c0d2",7⟩).toList = Compact.object (RekorPayload.fields ⟨"AQ==",5,"c0d2",7⟩) := by
  have decoded : Base64.decode (utf8 "AQ==") = some [1] := by decide +kernel
  constructor
  · intro same
    have equal := (canonical_text_exact ⟨"AQ==",5,"c0d2",7⟩ ⟨"AQ==",-5,"c0d2\",",7⟩).1 ⟨_,decoded⟩ ⟨_,decoded⟩ same
    have times := congrArg RekorPayload.integratedTime equal
    simp at times
  · exact (canonical_text_exact ⟨"AQ==",5,"c0d2",7⟩ ⟨"AQ==",5,"c0d2",7⟩).2 (by decide) (by decide)

end GatewaySdk.Upgrade
