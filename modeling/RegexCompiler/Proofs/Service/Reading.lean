import RegexCompiler.Proofs.Endpoint.Request
import RegexCompiler.Service.Message

/-!
# The service is a framework

The service keeps the promise that the endpoints rely on, of all requests but those that it breaks
down at, because their body has more levels than can be read (`Service.reads_iff`).  The members
that a request sends are those of the text of its body.
-/

namespace RegexCompiler.Service

open Endpoint (Framework IsJson)

/-- **The framework of the service.** -/
def framework : Framework Request where
  mediaType? r := r.contentType.map fun type => String.ofList (mediaType type)
  members? r := r.text?.bind (Json.membersWithin? Json.maxDigits)
  document? := Request.document?

/-- The service knows the media types of JSON. -/
theorem isJsonType_eq_true_iff {contentType : String} :
    isJsonType contentType = true ↔ IsJson (String.ofList (mediaType contentType)) := by
  simp only [isJsonType, Bool.or_eq_true, Bool.and_eq_true, beq_iff_eq, List.isPrefixOf_iff_prefix,
    List.isSuffixOf_iff_suffix, IsJson, ← String.toList_inj, String.toList_ofList,
    String.toList_append]
  refine or_congr_right ⟨?_, ?_⟩
  · rintro ⟨⟨rest, hrest⟩, hsuffix⟩
    obtain ⟨front, hfront⟩ := hsuffix
    rcases List.append_eq_append_iff.mp (hfront.trans hrest.symm) with
      ⟨shared, hshared, hplus⟩ | ⟨base, -, hbase⟩
    · -- the two parts do not overlap: no plus sign stands in the first one
      cases shared with
      | nil => exact ⟨"", by rw [← hrest, hplus]; rfl⟩
      | cons c shared =>
          obtain rfl : '+' = c := (List.cons.inj hplus).1
          exact absurd (hshared ▸ List.mem_append_right front List.mem_cons_self) (by decide)
    · refine ⟨String.ofList base, ?_⟩
      rw [← hrest, hbase, String.toList_ofList (l := base), List.append_assoc]
  · rintro ⟨base, hbase⟩
    rw [hbase]
    exact ⟨⟨_, (List.append_assoc ..).symm⟩, ⟨_, rfl⟩⟩

/-- What a request sends is in the text of its body, if its media type is one of JSON. -/
theorem sends_iff {r : Request} {members : List (String × Json)} :
    framework.Sends r members ↔ r.contentType.any isJsonType = true ∧
      ∃ cs, r.text? = some cs ∧ Json.membersWithin? Json.maxDigits cs = some members := by
  simp only [Framework.Sends, framework, Option.map_eq_some_iff, Option.bind_eq_some_iff,
    Option.any_eq_true]
  constructor
  · rintro ⟨_, ⟨type, htype, rfl⟩, hjson, hmembers⟩
    exact ⟨⟨type, htype, isJsonType_eq_true_iff.mpr hjson⟩, hmembers⟩
  · rintro ⟨⟨type, htype, hjson⟩, hmembers⟩
    exact ⟨_, ⟨type, htype, rfl⟩, isJsonType_eq_true_iff.mp hjson, hmembers⟩

/-- An object that is sent is the document, unless reading it breaks down. -/
theorem document?_of_sends {r : Request} {members : List (String × Json)}
    (h : framework.Sends r members) (hsome : r.document?.isSome = true) :
    r.document? = some (Json.ofFields members) := by
  obtain ⟨hjson, cs, hcs, hmembers⟩ := sends_iff.mp h
  have hparse : Json.parse? cs = some (Json.ofFields members) :=
    Json.parseWithin?_eq_obj_iff.mpr ⟨members, hmembers, rfl⟩
  have hread : r.document? =
      if Json.overruns maxDepth cs then none else some (Json.ofFields members) := by
    simp [Request.document?, hjson, hcs, hparse]
  rw [hread] at hsome ⊢
  split at hsome
  · cases hsome
  · next hfits => rw [if_neg hfits]

/-- A document that is an object has been sent. -/
theorem exists_sends_of_document? {r : Request} {fields : List (String × Json)}
    (h : r.document? = some (.obj fields)) : ∃ members, framework.Sends r members := by
  unfold Request.document? at h
  split at h
  · next hjson =>
    split at h
    · next cs hcs =>
      split at h
      · cases h
      · cases hparse : Json.parse? cs with
        | none =>
            rw [hparse] at h
            cases h
        | some document =>
            rw [hparse, Option.getD_some, Option.some.injEq] at h
            obtain ⟨members, hmembers, -⟩ := Json.parseWithin?_eq_obj_iff.mp (h ▸ hparse)
            exact ⟨members, sends_iff.mpr ⟨hjson, cs, hcs, hmembers⟩⟩
    · cases h
  · cases h

/-- **The service keeps its promise** of every request but those that it breaks down at. -/
theorem reads_iff {r : Request} : framework.Reads r ↔ r.document?.isSome = true := by
  constructor
  · intro hreads
    obtain ⟨document, hdocument, -⟩ := hreads.exists_document
    exact Option.isSome_iff_exists.mpr ⟨document, hdocument⟩
  · intro hsome
    refine ⟨fun members hsends => document?_of_sends hsends hsome, ?_⟩
    intro hnone
    obtain ⟨document, hdocument⟩ := Option.isSome_iff_exists.mp hsome
    refine ⟨document, hdocument, ?_⟩
    rintro fields rfl
    exact hnone (exists_sends_of_document? hdocument)

end RegexCompiler.Service
