import BlazCtf.Orchestrator.Databases

set_option autoImplicit false

namespace Orchestrator

namespace RedisDatabase

/-- The secondary structures tell what is stored: an instance has an entry in
`expiries` just while it is stored, and `external_ids` leads from its external id to it
and nowhere else. -/
structure Indexed (db : RedisDatabase) : Prop where
  keyed : ∀ instanceId instance_, db.instances.lookup instanceId = some instance_ →
    instance_.instanceId = instanceId
  expiring : ∀ instanceId, instanceId ∈ db.instances ↔ instanceId ∈ db.expiries
  indexed : ∀ externalId instanceId, db.externalIds.lookup externalId = some instanceId ↔
    ∃ instance_, db.instances.lookup instanceId = some instance_ ∧
      instance_.externalId = externalId

variable {db : RedisDatabase} {instance_ : UserData} {instanceId : String}

theorem Indexed.of_empty : Indexed empty where
  keyed := by
    intro instanceId instance_ stored
    cases stored
  expiring := fun _ => Iff.rfl
  indexed := by
    intro externalId instanceId
    constructor
    · intro found
      cases found
    · rintro ⟨instance_, stored, _⟩
      cases stored

/-- Two stored instances have different external ids. -/
theorem Indexed.injective (indexed : Indexed db) {first second : String}
    {left right : UserData} (leftStored : db.instances.lookup first = some left)
    (rightStored : db.instances.lookup second = some right)
    (same : left.externalId = right.externalId) : first = second := by
  have one := (indexed.indexed right.externalId first).mpr ⟨left, leftStored, same⟩
  have two := (indexed.indexed right.externalId second).mpr ⟨right, rightStored, rfl⟩
  exact Option.some.inj (one.symm.trans two)

/-- Registering an absent instance under an external id that is not in use. -/
theorem Indexed.register (indexed : Indexed db)
    (absent : db.instances.lookup instance_.instanceId = none)
    (fresh : ∀ other stored, db.instances.lookup other = some stored →
      stored.externalId ≠ instance_.externalId) :
    Indexed (db.register instance_) := by
  constructor
  · intro other stored found
    by_cases same : other = instance_.instanceId
    · subst same
      rw [RedisDatabase.register, AList.lookup_insert] at found
      rw [← Option.some.inj found]
    · rw [RedisDatabase.register, AList.lookup_insert_ne same] at found
      exact indexed.keyed other stored found
  · intro other
    simp only [RedisDatabase.register, AList.mem_insert, indexed.expiring]
  · intro externalId other
    have unused : db.externalIds.lookup instance_.externalId = none := by
      cases found : db.externalIds.lookup instance_.externalId with
      | none => rfl
      | some holder =>
          obtain ⟨stored, held, used⟩ := (indexed.indexed _ _).mp found
          exact absurd used (fresh holder stored held)
    by_cases named : externalId = instance_.externalId
    · subst named
      rw [RedisDatabase.register, AList.lookup_insert]
      constructor
      · intro found
        rw [← Option.some.inj found, AList.lookup_insert]
        exact ⟨instance_, rfl, rfl⟩
      · rintro ⟨stored, found, same⟩
        by_cases here : other = instance_.instanceId
        · rw [here]
        · rw [AList.lookup_insert_ne here] at found
          exact absurd same (fresh other stored found)
    · rw [RedisDatabase.register, AList.lookup_insert_ne named, indexed.indexed]
      by_cases here : other = instance_.instanceId
      · subst here
        rw [absent, AList.lookup_insert]
        constructor
        · rintro ⟨stored, found, _⟩
          cases found
        · rintro ⟨stored, found, same⟩
          rw [← Option.some.inj found] at same
          exact absurd same.symm named
      · rw [AList.lookup_insert_ne here]

/-- Unregistering an instance that is stored as it was read, or not stored any more. -/
theorem Indexed.unregister (indexed : Indexed db)
    (current : ∀ stored, db.instances.lookup instanceId = some stored →
      stored.externalId = instance_.externalId)
    (sole : ∀ other stored, db.instances.lookup other = some stored →
      stored.externalId = instance_.externalId → other = instanceId) :
    Indexed (db.unregister instanceId instance_) := by
  constructor
  · intro other stored found
    by_cases same : other = instanceId
    · subst same
      rw [RedisDatabase.unregister, AList.lookup_erase] at found
      cases found
    · rw [RedisDatabase.unregister, AList.lookup_erase_ne same] at found
      exact indexed.keyed other stored found
  · intro other
    simp only [RedisDatabase.unregister, AList.mem_erase, indexed.expiring]
  · intro externalId other
    by_cases named : externalId = instance_.externalId
    · subst named
      rw [RedisDatabase.unregister, AList.lookup_erase]
      constructor
      · intro found
        cases found
      · rintro ⟨stored, found, same⟩
        by_cases here : other = instanceId
        · subst here
          rw [AList.lookup_erase] at found
          cases found
        · rw [AList.lookup_erase_ne here] at found
          exact absurd (sole other stored found same) here
    · rw [RedisDatabase.unregister, AList.lookup_erase_ne named, indexed.indexed]
      by_cases here : other = instanceId
      · subst here
        rw [AList.lookup_erase]
        constructor
        · rintro ⟨stored, found, same⟩
          exact absurd (same.symm.trans (current stored found)) named
        · rintro ⟨stored, found, _⟩
          cases found
      · rw [AList.lookup_erase_ne here]

theorem Indexed.updateMetadata (indexed : Indexed db) (metadata : List (String × String)) :
    Indexed (db.updateMetadata instanceId metadata) :=
  ⟨indexed.keyed, indexed.expiring, indexed.indexed⟩

end RedisDatabase

end Orchestrator
