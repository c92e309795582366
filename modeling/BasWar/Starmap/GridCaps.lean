import BasWar.Starmap.OwnerIndex
import Mathlib

/-!
# How many grids a player and a union may own

The end of a campaign looks at the limits of the winner before the grid changes its owner.  A gift
looks at no limit, and gives a private grid to the union of the new owner.
-/

namespace BasWar.Starmap.Owners

open Cooperative

/-- The limits of all players; the limit of a union is `getGridUnionMax`. -/
structure Limits where
  playerMax : ℕ → ℕ

/-- No player has more private grids than allowed, and no union more grids of its own. -/
structure WithinCaps (settings : MapSettings) (limits : Limits) (map : StarMap) : Prop where
  players : ∀ pid, pid ≠ 0 → ∀ owned : Finset ℕ,
    (∀ cfgId ∈ owned, ∃ grid, map.grids cfgId = some grid ∧ grid.owner.playerId = pid ∧
      grid.owner.isPrivate = true) → owned.card ≤ limits.playerMax pid
  unions : ∀ unionId, unionId ≠ 0 → ∀ owned : Finset ℕ,
    (∀ cfgId ∈ owned, ∃ grid, map.grids cfgId = some grid ∧ grid.owner.unionId = unionId ∧
      grid.owner.isPrivate = false) → owned.card ≤ settings.gridUnionMax

/-- The VIP level of an attack stands for the limit of its player. -/
def Fair (settings : MapSettings) (limits : Option Limits) (attack : Attack) : Prop :=
  ∀ limit ∈ limits,
    settings.gridPlayerMax attack.vipLevel = limit.playerMax attack.attacker.playerId
  deriving Decidable

/-- The new owner, or the union of the new owner, may have one grid more. -/
def HasRoom (settings : MapSettings) (limits : Option Limits) (map : StarMap) (cfgId : ℕ)
    (newOwner : NewOwner) : Prop :=
  ∀ limit ∈ limits,
    if newOwner.isPrivate then
      map.getPlayerGridCount newOwner.player.playerId < limit.playerMax newOwner.player.playerId
    else
      newOwner.player.unionId ≠ 0 →
        ((map.unionGridIds newOwner.player.unionId).erase cfgId).card < settings.gridUnionMax

instance (settings : MapSettings) (limits : Option Limits) (map : StarMap) (cfgId : ℕ)
    (newOwner : NewOwner) : Decidable (HasRoom settings limits map cfgId newOwner) := by
  unfold HasRoom
  infer_instance

/-- `changeOwner` does not wait for the node of the old owner, VIP levels do not change, and there
is room when a grid is given away and when the node of a winner has been found. -/
def watched (settings : MapSettings) (limits : Option Limits) :
    Guard StarMap Request Task Reply where
  onRequest request map others :=
    (atOnce settings).onRequest request map others ∧
      match request with
      | .startBattle _ attack => Fair settings limits attack
      | _ => True
  onReply task reply map others :=
    (atOnce settings).onReply task reply map others ∧
      match task.call, reply with
      | .getUnionMember _ _, .member (some member) =>
          HasRoom settings limits map task.handler.cfgId ⟨member, false⟩
      | .getPlayerNodeByPid _ (.changeOwner (some newOwner) _), .node _ =>
          HasRoom settings limits map task.handler.cfgId newOwner
      | _, _ => True

instance (settings : MapSettings) (limits : Option Limits) (request map others) :
    Decidable ((watched settings limits).onRequest request map others) := by
  unfold watched
  dsimp only
  refine @instDecidableAnd _ _ inferInstance ?_
  split <;> infer_instance

instance (settings : MapSettings) (limits : Option Limits) (task reply map others) :
    Decidable ((watched settings limits).onReply task reply map others) := by
  unfold watched
  dsimp only
  refine @instDecidableAnd _ _ inferInstance ?_
  generalize task.call = call
  induction call using Call.casesOn
  all_goals try (rename_i next; induction next using Next.casesOn)
  all_goals try (rename_i newOwner _; induction newOwner using Option.casesOn)
  all_goals
    induction reply using Reply.casesOn <;> first
      | (dsimp only; infer_instance)
      | (rename_i member; induction member using Option.casesOn <;> dsimp only <;> infer_instance)

/-- The counts that the star map reads are within the limits. -/
def Capped (settings : MapSettings) (limits : Option Limits) (map : StarMap) : Prop :=
  ∀ limit ∈ limits,
    (∀ pid, pid ≠ 0 → map.getPlayerGridCount pid ≤ limit.playerMax pid) ∧
      ∀ unionId, unionId ≠ 0 → map.getUnionGridCount unionId ≤ settings.gridUnionMax

section Counts

variable {settings : MapSettings} {limits : Option Limits} {map mid : StarMap} {cfgId : ℕ}

theorem Capped.same (capped : Capped settings limits map)
    (players : mid.playerGridIds = map.playerGridIds)
    (unions : mid.unionGridIds = map.unionGridIds)
    (held : ∀ id, mid.holdsPrivate id = map.holdsPrivate id) : Capped settings limits mid := by
  intro limit mem
  obtain ⟨player_caps, union_caps⟩ := capped limit mem
  refine ⟨fun pid named => ?_, fun unionId named => ?_⟩
  · simpa only [StarMap.getPlayerGridCount, players, held] using player_caps pid named
  · simpa only [StarMap.getUnionGridCount, unions] using union_caps unionId named

theorem holdsPrivate_iff : map.holdsPrivate cfgId ↔
    ∃ grid, map.grids cfgId = some grid ∧ grid.owner.playerId ≠ 0 ∧
      grid.owner.isPrivate = true := by
  unfold StarMap.holdsPrivate isPrivate Owner.ownsPrivately
  cases map.grids cfgId <;> simp

/-- A change of owner for which there is room keeps the counts within the limits. -/
theorem Capped.change (capped : Capped settings limits map) (indexed : Indexed map) {grid : Grid}
    (found : map.grids cfgId = some grid) (newOwner : Option NewOwner)
    (room : ∀ player ∈ newOwner, HasRoom settings limits map cfgId player) :
    Capped settings limits ((map.dropOwner cfgId).takeOwner cfgId newOwner) := by
  intro limit mem
  obtain ⟨player_caps, union_caps⟩ := capped limit mem
  -- Away from the grid nothing becomes private.
  have elsewhere : ∀ id, id ≠ cfgId →
      (((map.dropOwner cfgId).takeOwner cfgId newOwner).holdsPrivate id ↔
        map.holdsPrivate id) := by
    intro id away
    simp [holdsPrivate_iff, changed_grids, away]
  have here : ((map.dropOwner cfgId).takeOwner cfgId newOwner).holdsPrivate cfgId →
      ∃ player ∈ newOwner, player.isPrivate = true := by
    rw [holdsPrivate_iff]
    simp only [changed_grids, ↓reduceIte, found, Option.map_some, Option.some.injEq]
    rintro ⟨_, rfl, named, owned⟩
    cases newOwner with
    | none => exact absurd rfl named
    | some player => exact ⟨player, rfl, owned⟩
  constructor
  · intro pid named
    by_cases grows : ∃ player ∈ newOwner, player.isPrivate = true ∧ player.player.playerId = pid
    · obtain ⟨player, player_mem, owned, rfl⟩ := grows
      have free : map.getPlayerGridCount player.player.playerId <
          limit.playerMax player.player.playerId := by
        simpa [owned] using room player player_mem limit mem
      refine le_trans (Finset.card_le_card (t := insert cfgId
        ((map.playerGridIds player.player.playerId).filter fun id => map.holdsPrivate id)) ?_) ?_
      · intro id id_mem
        obtain ⟨listed, held⟩ := Finset.mem_filter.mp id_mem
        rw [mem_changed_players indexed found newOwner named] at listed
        rcases listed with ⟨away, listed⟩ | ⟨rfl, _⟩
        · exact Finset.mem_insert_of_mem
            (Finset.mem_filter.mpr ⟨listed, (elsewhere id away).mp held⟩)
        · exact Finset.mem_insert_self _ _
      · exact (Finset.card_insert_le _ _).trans free
    · refine le_trans (Finset.card_le_card fun id id_mem => ?_) (player_caps pid named)
      obtain ⟨listed, held⟩ := Finset.mem_filter.mp id_mem
      rw [mem_changed_players indexed found newOwner named] at listed
      rcases listed with ⟨away, listed⟩ | ⟨rfl, player, player_eq, id_eq⟩
      · exact Finset.mem_filter.mpr ⟨listed, (elsewhere id away).mp held⟩
      · obtain ⟨other, other_mem, owned⟩ := here held
        obtain rfl := Option.some.inj (player_eq.symm.trans other_mem)
        exact absurd ⟨player, other_mem, owned, id_eq⟩ grows
  · intro unionId named
    by_cases grows : ∃ player ∈ newOwner, player.player.unionId = unionId ∧
        player.isPrivate = false
    · obtain ⟨player, player_mem, rfl, shared⟩ := grows
      have free : ((map.unionGridIds player.player.unionId).erase cfgId).card <
          settings.gridUnionMax := by
        simpa [shared, named] using room player player_mem limit mem
      refine le_trans (Finset.card_le_card (t := insert cfgId
        ((map.unionGridIds player.player.unionId).erase cfgId)) fun id id_mem => ?_)
        ((Finset.card_insert_le _ _).trans free)
      rw [mem_changed_unions indexed found newOwner named] at id_mem
      rcases id_mem with ⟨away, listed⟩ | ⟨rfl, _⟩
      · exact Finset.mem_insert_of_mem (Finset.mem_erase.mpr ⟨away, listed⟩)
      · exact Finset.mem_insert_self _ _
    · refine le_trans (Finset.card_le_card fun id id_mem => ?_) (union_caps unionId named)
      rw [mem_changed_unions indexed found newOwner named] at id_mem
      rcases id_mem with ⟨_, listed⟩ | ⟨rfl, player, player_eq, owns⟩
      · exact listed
      · exact absurd ⟨player, player_eq, owns⟩ grows

theorem withinCaps_iff {limit : Limits} (index : OwnerIndex map) :
    WithinCaps settings limit map ↔ Capped settings (some limit) map := by
  have counted : ∀ pid, pid ≠ 0 → ∀ id,
      id ∈ (map.playerGridIds pid).filter (fun cfgId => map.holdsPrivate cfgId) ↔
        ∃ grid, map.grids id = some grid ∧ grid.owner.playerId = pid ∧
          grid.owner.isPrivate = true := by
    intro pid named id
    rw [Finset.mem_filter, index.players id pid named, holdsPrivate_iff]
    constructor
    · rintro ⟨⟨grid, found, owner_eq⟩, other, other_found, _, owned⟩
      obtain rfl := Option.some.inj (found.symm.trans other_found)
      exact ⟨grid, found, owner_eq, owned⟩
    · rintro ⟨grid, found, owner_eq, owned⟩
      exact ⟨⟨grid, found, owner_eq⟩, grid, found, owner_eq ▸ named, owned⟩
  constructor
  · intro within limit' mem
    obtain rfl := Option.mem_some_iff.mp mem
    exact ⟨fun pid named => within.players pid named _ fun id id_mem =>
      (counted pid named id).mp id_mem, fun unionId named => within.unions unionId named _
      fun id id_mem => (index.unions id unionId named).mp id_mem⟩
  · intro capped
    obtain ⟨player_caps, union_caps⟩ := capped limit rfl
    refine ⟨fun pid named owned owns => ?_, fun unionId named owned owns => ?_⟩
    · exact (Finset.card_le_card fun id id_mem => (counted pid named id).mpr (owns id id_mem)).trans
        (player_caps pid named)
    · exact (Finset.card_le_card fun id id_mem =>
        (index.unions id unionId named).mpr (owns id id_mem)).trans (union_caps unionId named)

end Counts

end BasWar.Starmap.Owners
