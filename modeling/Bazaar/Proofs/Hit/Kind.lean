import Bazaar.Proofs.Outcome
import Bazaar.Result.Response

/-!
# The kind of a hit

Whatever is in an answer, its hits are records of the kind for which it is read.
-/

namespace Bazaar

variable [Platform]

theorem Record.kind_of_ofMembers {kind : HitKind} {objectId : Phrase} {raw : Members}
    {record : Record} (read : Record.ofMembers kind objectId raw = .ok record) :
    record.kind = kind := by
  cases kind with
  | generic => cases read; rfl
  | _ =>
      obtain ⟨_, -, rfl⟩ := exists_of_map_eq_ok read
      rfl

theorem Hit.kind_of_ofMembers {kind : HitKind} {objectId : Phrase} {raw : Members} {hit : Hit}
    (read : Hit.ofMembers kind objectId raw = .ok hit) : hit.record.kind = kind := by
  obtain ⟨record, found, rest⟩ := exists_of_bind_eq_ok read
  cases rest
  exact Record.kind_of_ofMembers found

theorem Hit.kind_of_ofJson {kind : HitKind} {v : Json} {hit : Hit}
    (read : Hit.ofJson kind v = .inr (.ok hit)) : hit.record.kind = kind := by
  unfold ofJson at read
  split at read
  · split at read
    · cases read
    · split at read
      · cases read
      · exact kind_of_ofMembers (Sum.inr.inj read)
  · cases read

/-- A hit is read from an object. -/
theorem Hit.exists_obj_of_ofJson {kind : HitKind} {v : Json} {hit : Hit}
    (read : Hit.ofJson kind v = .inr (.ok hit)) : ∃ raw, v = .obj raw := by
  unfold ofJson at read
  split at read
  · exact ⟨_, rfl⟩
  · cases read

/-- Every hit of a list is read from one of the items. -/
theorem Hit.exists_item_of_listOfJson {kind : HitKind} {items : List Json} {hits : List Hit}
    (read : (Hit.listOfJson kind items).2 = .ok hits) :
    ∀ hit ∈ hits, ∃ v ∈ items, Hit.ofJson kind v = .inr (.ok hit) := by
  induction items generalizing hits with
  | nil => cases read; exact List.forall_mem_nil _
  | cons v rest ih =>
      have later {hit : Hit} (found : ∃ w ∈ rest, Hit.ofJson kind w = .inr (.ok hit)) :
          ∃ w ∈ v :: rest, Hit.ofJson kind w = .inr (.ok hit) := by
        obtain ⟨w, member, found⟩ := found
        exact ⟨w, List.mem_cons_of_mem v member, found⟩
      rw [listOfJson] at read
      split at read
      · split at read
        · exact fun hit member => later (ih read hit member)
        · cases read
      · cases read
      · rename_i first found
        obtain ⟨others, readOthers, rfl⟩ := exists_of_map_eq_ok read
        exact List.forall_mem_cons.mpr ⟨⟨v, List.mem_cons_self, found⟩,
          fun hit member => later (ih readOthers hit member)⟩

omit [Platform] in
theorem Response.hits_of_withPaging {payload : Members} {hits : List Hit} {hitsPerPage : Int}
    {answer : Response} (read : withPaging payload hits hitsPerPage = .ok answer) :
    answer.hits = hits := by
  obtain ⟨_, -, read⟩ := exists_of_bind_eq_ok read
  obtain ⟨_, -, read⟩ := exists_of_bind_eq_ok read
  obtain ⟨_, -, read⟩ := exists_of_bind_eq_ok read
  obtain ⟨_, -, read⟩ := exists_of_bind_eq_ok read
  obtain ⟨_, -, read⟩ := exists_of_bind_eq_ok read
  cases read
  rfl

/-- Every hit of a response is read from one of the items that the answer holds. -/
theorem Response.exists_item_of_ofMembers {payload : Members} {kind : HitKind} {hitsPerPage : Int}
    {answer : Response} (read : (ofMembers payload kind hitsPerPage).2 = .ok answer) :
    ∀ hit ∈ answer.hits, ∃ items, payload.get? "hits" = some (.arr items) ∧
      ∃ v ∈ items, Hit.ofJson kind v = .inr (.ok hit) := by
  unfold ofMembers at read
  split at read
  · rename_i items listed
    split at read
    · rename_i hits found
      have paged := eq_ok_of_mapError_eq_ok read
      rw [hits_of_withPaging paged]
      exact fun hit member =>
        ⟨items, listed, Hit.exists_item_of_listOfJson (by rw [found]) hit member⟩
    · cases read
  · cases read

/-- The hits of a response are records of the kind for which it is read. -/
theorem Response.kind_of_ofMembers {payload : Members} {kind : HitKind} {hitsPerPage : Int}
    {answer : Response} (read : (ofMembers payload kind hitsPerPage).2 = .ok answer) :
    ∀ hit ∈ answer.hits, hit.record.kind = kind := by
  intro hit member
  obtain ⟨-, -, v, -, found⟩ := exists_item_of_ofMembers read hit member
  exact Hit.kind_of_ofJson found

end Bazaar
