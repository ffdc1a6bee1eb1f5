import NfsStorage.Proofs.Codec.Lawful
import NfsStorage.Proofs.Store.Reachable

/-!
# What a list shows

In a tidy store a list shows every object once, in the order of the names, and an object that is
shown is the one that a look under its name finds.
-/

namespace NfsStorage

theorem Dict.nodup_keys {α : Type} (d : Dict α) : d.keys.Nodup :=
  List.pairwise_map.mpr (d.increasing.imp Dict.ne_of_lt)

namespace Cluster.Tidy

variable {k : Cluster} {c : Collection}

theorem object?_of_mem (tidy : k.Tidy c) {object : c.Object}
    (listed : object ∈ (k.store c).objects.values) :
    k.object? c (Resource.name object) = some object := by
  obtain ⟨⟨key, value⟩, membership, rfl⟩ := List.mem_map.mp listed
  have found : k.object? c key = some value :=
    ((k.store c).objects.get?_eq_some_iff).mpr membership
  rwa [tidy.named found]

theorem mem_values_iff (tidy : k.Tidy c) {object : c.Object} :
    object ∈ (k.store c).objects.values ↔
      k.object? c (Resource.name object) = some object :=
  ⟨tidy.object?_of_mem, fun found => Dict.mem_values_iff.mpr ⟨_, found⟩⟩

theorem map_values {β : Type} (tidy : k.Tidy c) (f : String → c.Object → β) :
    (k.store c).objects.values.map (fun object => f (Resource.name object) object) =
      (k.store c).objects.entries.map fun entry => f entry.1 entry.2 := by
  rw [Dict.values, List.map_map]
  refine List.map_congr_left fun entry membership => ?_
  have found : k.object? c entry.1 = some entry.2 :=
    ((k.store c).objects.get?_eq_some_iff).mpr membership
  rw [Function.comp_apply, tidy.named found]

theorem nodup_names (tidy : k.Tidy c) :
    ((k.store c).objects.values.map Resource.name).Nodup := by
  rw [tidy.map_values fun name _ => name]
  exact Dict.nodup_keys _

theorem ofList_values (tidy : k.Tidy c) :
    Dict.ofList ((k.store c).objects.values.map fun object => (Resource.name object, object)) =
      (k.store c).objects := by
  rw [tidy.map_values Prod.mk]
  exact (congrArg Dict.ofList (List.map_id _)).trans (Dict.ofList_entries _)

end Cluster.Tidy

end NfsStorage
