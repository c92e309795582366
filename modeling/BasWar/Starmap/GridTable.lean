import BasWar.Starmap.Grid
import Mathlib.Data.List.Nodup
import Mathlib.Data.List.Count

/-!
# NFTs in a table of buildings

The handlers of a grid filter its buildings by id, change them in place and group them by player.
These are the effects on the NFTs among them.
-/

namespace BasWar.Starmap

def nfts (builds : List Build) : List (ℕ × ℕ) :=
  (builds.filter (·.isNFT)).map fun build => (build.id, build.ownerPid)

def nftCount (id : ℕ) (builds : List Build) : ℕ :=
  (nfts builds).countP (·.1 = id)

@[simp]
theorem nfts_nil : nfts [] = [] := rfl

theorem nfts_append (first second : List Build) :
    nfts (first ++ second) = nfts first ++ nfts second := by
  simp [nfts]

theorem nfts_cons (build : Build) (builds : List Build) :
    nfts (build :: builds) =
      (if build.isNFT then [(build.id, build.ownerPid)] else []) ++ nfts builds := by
  cases is_nft : build.isNFT <;> simp [nfts, is_nft]

theorem nfts_perm {first second : List Build} (perm : first.Perm second) :
    (nfts first).Perm (nfts second) :=
  (perm.filter _).map _

theorem nfts_filter (keep : ℕ → Bool) (builds : List Build) :
    nfts (builds.filter fun build => keep build.id) =
      (nfts builds).filter fun nft => keep nft.1 := by
  induction builds with
  | nil => rfl
  | cons build builds ih =>
      rw [nfts_cons, List.filter_append, ← ih, List.filter_cons]
      cases kept : keep build.id with
      | false => cases is_nft : build.isNFT <;> simp [kept]
      | true => cases is_nft : build.isNFT <;> simp [nfts_cons, is_nft, kept]

theorem nfts_map {change : Build → Build} (builds : List Build)
    (keeps : ∀ build, (change build).id = build.id ∧ (change build).chain = build.chain ∧
      (change build).ownerPid = build.ownerPid) :
    nfts (builds.map change) = nfts builds := by
  induction builds with
  | nil => rfl
  | cons build builds ih =>
      obtain ⟨id_eq, chain_eq, owner_eq⟩ := keeps build
      rw [List.map_cons, nfts_cons, nfts_cons, ih, Build.isNFT, Build.isNFT, id_eq, chain_eq,
        owner_eq]

variable {builds : List Build}

theorem mem_nfts {nft : ℕ × ℕ} :
    nft ∈ nfts builds ↔ ∃ build ∈ builds, build.isNFT ∧ build.id = nft.1 ∧
      build.ownerPid = nft.2 := by
  simp only [nfts, List.mem_map, List.mem_filter, Prod.ext_iff]
  constructor
  · rintro ⟨build, ⟨build_mem, is_nft⟩, id_eq, owner_eq⟩
    exact ⟨build, build_mem, is_nft, id_eq, owner_eq⟩
  · rintro ⟨build, build_mem, is_nft, id_eq, owner_eq⟩
    exact ⟨build, ⟨build_mem, is_nft⟩, id_eq, owner_eq⟩

@[simp]
theorem nftCount_nil (id : ℕ) : nftCount id [] = 0 := rfl

theorem nftCount_append (id : ℕ) (first second : List Build) :
    nftCount id (first ++ second) = nftCount id first + nftCount id second := by
  rw [nftCount, nfts_append, List.countP_append]
  rfl

theorem nftCount_cons (id : ℕ) (build : Build) (builds : List Build) :
    nftCount id (build :: builds) = nftCount id [build] + nftCount id builds :=
  nftCount_append id [build] builds

theorem nftCount_perm (id : ℕ) {first second : List Build} (perm : first.Perm second) :
    nftCount id first = nftCount id second :=
  (nfts_perm perm).countP_eq _

theorem nftCount_filter (id : ℕ) (keep : ℕ → Bool) (builds : List Build) :
    nftCount id (builds.filter fun build => keep build.id) =
      if keep id then nftCount id builds else 0 := by
  rw [nftCount, nfts_filter, List.countP_filter]
  split
  next kept =>
    refine List.countP_congr fun nft _ => ?_
    simp only [Bool.and_eq_true, decide_eq_true_eq, and_iff_left_iff_imp]
    rintro rfl
    exact kept
  next dropped =>
    refine List.countP_eq_zero.mpr fun nft _ => ?_
    simp only [Bool.and_eq_true, decide_eq_true_eq, not_and]
    rintro rfl
    exact dropped

theorem nftCount_eq_zero {id : ℕ} :
    nftCount id builds = 0 ↔ ∀ build ∈ builds, build.isNFT → build.id ≠ id := by
  rw [nftCount, List.countP_eq_zero]
  constructor
  · intro none build build_mem is_nft
    simpa using none (build.id, build.ownerPid) (mem_nfts.mpr ⟨build, build_mem, is_nft, rfl, rfl⟩)
  · rintro none nft nft_mem
    obtain ⟨build, build_mem, is_nft, id_eq, -⟩ := mem_nfts.mp nft_mem
    simpa [← id_eq] using none build build_mem is_nft

theorem nftCount_part (nodup : (builds.map (·.id)).Nodup) (part : Build → Bool) (id : ℕ) :
    nftCount id (builds.filter part) =
      if id ∈ (builds.filter part).map (·.id) then nftCount id builds else 0 := by
  split
  next in_part =>
    obtain ⟨build, build_mem, id_eq⟩ := List.mem_map.mp in_part
    obtain ⟨build_mem, in_part⟩ := List.mem_filter.mp build_mem
    have same : ∀ other ∈ builds, other.id = id → part other = true := by
      intro other other_mem other_id
      rwa [List.inj_on_of_nodup_map nodup other_mem build_mem (other_id.trans id_eq.symm)]
    simp only [nftCount, nfts, List.countP_map, List.countP_filter]
    refine List.countP_congr fun other other_mem => ?_
    have := same other other_mem
    simp only [Function.comp_apply, Bool.and_eq_true, decide_eq_true_eq]
    tauto
  next not_in_part =>
    refine nftCount_eq_zero.mpr fun build build_mem _ id_eq => not_in_part ?_
    exact List.mem_map.mpr ⟨build, build_mem, id_eq⟩

theorem nftCount_singleton (nodup : (builds.map (·.id)).Nodup) {build : Build}
    (build_mem : build ∈ builds) (id : ℕ) :
    nftCount id [build] = if id = build.id then nftCount id builds else 0 := by
  have single : builds.filter (fun other => decide (other.id = build.id)) = [build] := by
    induction builds with
    | nil => cases build_mem
    | cons head tail ih =>
        rw [List.map_cons, List.nodup_cons] at nodup
        rcases List.mem_cons.mp build_mem with rfl | in_tail
        · rw [List.filter_cons_of_pos (by simp), List.filter_eq_nil_iff.mpr]
          intro other other_mem same
          exact nodup.1 (List.mem_map.mpr ⟨other, other_mem, by simpa using same⟩)
        · rw [List.filter_cons_of_neg, ih nodup.2 in_tail]
          intro same
          have id_eq : head.id = build.id := by simpa using same
          exact nodup.1 (List.mem_map.mpr ⟨build, in_tail, id_eq.symm⟩)
  rw [← single, nftCount_filter id (fun other => decide (other = build.id)) builds]
  simp

theorem addToGroup_perm (build : Build) (groups : List HandBack) :
    ((addToGroup build groups).flatMap (·.builds)).Perm
      (build :: groups.flatMap (·.builds)) := by
  induction groups with
  | nil => exact .refl _
  | cons group groups ih =>
      rw [addToGroup]
      split
      · exact .refl _
      · simp only [List.flatMap_cons]
        exact (ih.append_left group.builds).trans List.perm_middle

theorem groupByOwner_perm (builds : List Build) :
    ((groupByOwner builds).flatMap (·.builds)).Perm (builds.filter (·.ownerPid ≠ 0)) := by
  rw [groupByOwner]
  induction builds.filter (·.ownerPid ≠ 0) with
  | nil => exact .refl _
  | cons build builds ih =>
      exact (addToGroup_perm build _).trans (ih.cons build)

theorem addToGroup_keeper {build : Build} {groups : List HandBack}
    (right : ∀ group ∈ groups, ∀ other ∈ group.builds, group.keeper = .bag other.ownerPid) :
    ∀ group ∈ addToGroup build groups, ∀ other ∈ group.builds,
      group.keeper = .bag other.ownerPid := by
  induction groups with
  | nil =>
      simp only [addToGroup, List.mem_singleton]
      rintro group rfl other other_mem
      rw [List.mem_singleton.mp other_mem]
  | cons head groups ih =>
      rw [addToGroup]
      split
      next same =>
        rintro group group_mem other other_mem
        rcases List.mem_cons.mp group_mem with rfl | in_tail
        · rcases List.mem_cons.mp other_mem with rfl | old
          · exact same
          · exact right head (by simp) other old
        · exact right group (by simp [in_tail]) other other_mem
      next =>
        rintro group group_mem other other_mem
        rcases List.mem_cons.mp group_mem with rfl | in_tail
        · exact right group (by simp) other other_mem
        · exact ih (fun group mem => right group (by simp [mem])) group in_tail other other_mem

theorem groupByOwner_keeper (builds : List Build) :
    ∀ group ∈ groupByOwner builds, ∀ build ∈ group.builds,
      group.keeper = .bag build.ownerPid := by
  rw [groupByOwner]
  induction builds.filter (·.ownerPid ≠ 0) with
  | nil => simp
  | cons build builds ih => exact addToGroup_keeper ih

theorem nodup_setBuild {grid : Grid} (nodup : (grid.builds.map (·.id)).Nodup) (build : Build) :
    ((grid.setBuild build).builds.map (·.id)).Nodup := by
  rw [Grid.setBuild, List.map_cons, List.nodup_cons]
  refine ⟨fun id_mem => ?_, nodup.sublist (List.filter_sublist.map _)⟩
  obtain ⟨other, other_mem, same⟩ := List.mem_map.mp id_mem
  have different := List.of_mem_filter other_mem
  simp [same] at different

end BasWar.Starmap
