import MapTypes.Landmark
import MapTypes.Proofs.ArenaLayout

/-!
Looking paths up. A path that a taxonomy has is a way down from the root, so over a sound taxonomy
its code fits and no lookup faults: not of a single path, not of the landmarks, not of all the paths
that an element calls for.
-/

namespace MapTypes

namespace Taxonomy

variable {taxonomy : Taxonomy}

theorem isChain_of_descend? {node : Node} {path : List String} {way : List Node}
    (found : taxonomy.descend? node path = some way) :
    (node :: way).IsChain taxonomy.HasChild := by
  induction path generalizing node way with
  | nil =>
    cases found
    exact .singleton node
  | cons label rest ih =>
    obtain ⟨child, here, found⟩ := Option.bind_eq_some_iff.mp found
    obtain ⟨further, onward, same⟩ := Option.bind_eq_some_iff.mp found
    cases same
    exact .cons_cons (hasChild_of_child? here).1 (ih onward)

theorem Sound.exists_codeOf? (sound : taxonomy.Sound) (path : List String) :
    ∃ code, taxonomy.codeOf? path = .ok code := by
  rw [codeOf?]
  cases found : taxonomy.descend? taxonomy.root path with
  | none => exact ⟨none, rfl⟩
  | some way =>
    obtain ⟨code, packed, _⟩ :=
      TypeCode.ofIndices_of_fit (sound.fit_of_way (isChain_of_descend? found))
    exact ⟨if code.isEmpty then none else some code, by simp only [packed]; rfl⟩

/-- The codes of some paths are the codes that any of them has. -/
theorem Sound.exists_codesOf (sound : taxonomy.Sound) (paths : List (List String)) :
    ∃ codes, taxonomy.codesOf paths = .ok codes ∧
      ∀ code, code ∈ codes ↔ ∃ path ∈ paths, taxonomy.codeOf? path = .ok (some code) := by
  obtain ⟨codes, ran⟩ := exists_mapM_eq_ok fun path (_ : path ∈ paths) => sound.exists_codeOf? path
  refine ⟨codes.filterMap id, by rw [codesOf, ran]; rfl, fun code => ?_⟩
  rw [← mem_of_mapM_eq_ok ran, List.mem_filterMap]
  simp

end Taxonomy

/-- Every landmark is looked up by its path. -/
theorem Landmarks.exists_find {taxonomy : Taxonomy} (sound : taxonomy.Sound) :
    ∃ landmarks, find taxonomy = .ok landmarks ∧
      taxonomy.codeOf? entrancePath = .ok landmarks.entrance ∧
      taxonomy.codeOf? addressPath = .ok landmarks.address ∧
      taxonomy.codeOf? highwayPath = .ok landmarks.highway ∧
      taxonomy.codeOf? stationPath = .ok landmarks.station ∧
      taxonomy.codeOf? subwayPath = .ok landmarks.subway := by
  obtain ⟨entrance, hasEntrance⟩ := sound.exists_codeOf? entrancePath
  obtain ⟨address, hasAddress⟩ := sound.exists_codeOf? addressPath
  obtain ⟨highway, hasHighway⟩ := sound.exists_codeOf? highwayPath
  obtain ⟨station, hasStation⟩ := sound.exists_codeOf? stationPath
  obtain ⟨subway, hasSubway⟩ := sound.exists_codeOf? subwayPath
  refine ⟨⟨entrance, address, highway, station, subway⟩, ?_, hasEntrance, hasAddress, hasHighway,
    hasStation, hasSubway⟩
  rw [find, hasEntrance, hasAddress, hasHighway, hasStation, hasSubway]
  rfl

/-- What was looked up are the codes of the paths. -/
theorem Landmarks.codeOf?_of_find {taxonomy : Taxonomy} (sound : taxonomy.Sound)
    {landmarks : Landmarks} (found : find taxonomy = .ok landmarks) :
    taxonomy.codeOf? entrancePath = .ok landmarks.entrance ∧
      taxonomy.codeOf? addressPath = .ok landmarks.address ∧
      taxonomy.codeOf? highwayPath = .ok landmarks.highway ∧
      taxonomy.codeOf? stationPath = .ok landmarks.station ∧
      taxonomy.codeOf? subwayPath = .ok landmarks.subway := by
  obtain ⟨same, foundSame, resolves⟩ := exists_find sound
  rw [found, Except.ok.injEq] at foundSame
  rwa [foundSame]

end MapTypes
