import MapTypes.Proofs.OutcomeAccount

/-!
Two classifications of one element, of which only one is asked to correct addressed entrances. The
correction takes place before the rounds, and still they are the same: entrances and addresses call
for none. Afterwards nothing brings an entrance back (`Provenance.of_entrance`), and an address that
the walk found already is not added a second time. So what the correction does to the record can be
read off the record of the other classification alone.
-/

namespace MapTypes

/-- A record that has a house and the type of entrances. -/
def Outcome.IsAddressedEntrance (taxonomy : Taxonomy) (outcome : Outcome) : Prop :=
  outcome.feature.hasHouse = true ∧
    ∃ code ∈ outcome.feature.types, taxonomy.codeOf? Landmarks.entrancePath = .ok (some code)

/-- An outcome with the record of another in which the entrance is made an address: of the types,
entrances are gone and addresses are there if they may be, and the names are gone. -/
structure Outcome.Corrects (taxonomy : Taxonomy) (options : Options) (fixed plain : Outcome) :
    Prop where
  reported : fixed.addressFixup = true
  increasing : fixed.feature.types.Pairwise (· < ·)
  types : ∀ code, code ∈ fixed.feature.types ↔
    code ∈ plain.feature.types ∧ taxonomy.codeOf? Landmarks.entrancePath ≠ .ok (some code) ∨
      taxonomy.codeOf? Landmarks.addressPath = .ok (some code) ∧
        Classify.admits taxonomy options code = true
  feature : fixed.feature = { plain.feature with types := fixed.feature.types, names := [] }

namespace Provenance

variable {taxonomy : Taxonomy} {fixed plain : Outcome} {code : TypeCode}

/-- Where an entrance became an address, the sources are those there would be without it, less
entrances, and the correction itself. -/
theorem iff_of_corrected (numbered : taxonomy.Numbered) (turned : fixed.addressFixup = true)
    (unturned : plain.addressFixup = false) (tags : fixed.tags = plain.tags)
    (discoveries : fixed.discoveries = plain.discoveries) (rounds : fixed.rounds = plain.rounds) :
    Provenance taxonomy fixed code ↔
      Provenance taxonomy plain code ∧
          taxonomy.codeOf? Landmarks.entrancePath ≠ .ok (some code) ∨
        taxonomy.codeOf? Landmarks.addressPath = .ok (some code) := by
  constructor
  · intro source
    have noEntrance := source.ne_entrance numbered turned
    cases source with
    | walked found _ =>
      exact .inl ⟨.walked (discoveries ▸ found) (by simp [unturned]), noEntrance⟩
    | address _ known => exact .inr known
    | flag ran hit known => exact .inl ⟨.flag (rounds ▸ ran) (tags ▸ hit) known, noEntrance⟩
    | city picked known => exact .inl ⟨.city (tags ▸ rounds ▸ picked) known, noEntrance⟩
  · rintro (⟨source, noEntrance⟩ | known)
    · cases source with
      | walked found _ => exact .walked (discoveries ▸ found) (fun kept => noEntrance kept.2)
      | address never _ =>
        rw [unturned] at never
        cases never
      | flag ran hit known => exact .flag (rounds ▸ ran) (tags ▸ hit) known
      | city picked known => exact .city (tags ▸ rounds ▸ picked) known
    · exact .address turned known

end Provenance

namespace Classify

variable {taxonomy : Taxonomy} {landmarks : Landmarks} {options : Options}
variable {prepared : Feature × List Tag} {fixed plain outcome : Outcome} {filter : Bool}

/-- Entrances that were left alone are types just when they were found and may be. -/
theorem Account.mem_types_of_entrance
    (account : Account taxonomy landmarks options prepared outcome) (numbered : taxonomy.Numbered)
    (unturned : outcome.addressFixup = false) {code : TypeCode}
    (isEntrance : taxonomy.codeOf? Landmarks.entrancePath = .ok (some code)) :
    code ∈ outcome.feature.types ↔ code ∈ admitted taxonomy options outcome.discoveries := by
  rw [account.types, admitted, List.mem_filter, and_comm]
  refine and_congr_left fun _ => ⟨fun source => (source.of_entrance numbered isEntrance).1, ?_⟩
  exact fun found => .walked found (by simp [unturned])

/-- Whether there is an entrance to correct can be seen on the record in which it was left alone. -/
theorem Account.addressFixup_iff
    (account : Account taxonomy landmarks ⟨true, filter⟩ prepared fixed)
    (accountPlain : Account taxonomy landmarks ⟨false, filter⟩ prepared plain)
    (numbered : taxonomy.Numbered) :
    fixed.addressFixup = true ↔ plain.IsAddressedEntrance taxonomy := by
  rw [account.addressFixup, account.discoveries_eq accountPlain rfl, Outcome.IsAddressedEntrance,
    accountPlain.hasHouse_eq, eq_self_iff_true, true_and]
  refine and_congr_right fun _ => exists_congr fun code => and_congr_left fun isEntrance => ?_
  exact (accountPlain.mem_types_of_entrance numbered (accountPlain.unfixed rfl) isEntrance).symm

/-- What a correction makes of the record in which the entrance was left alone. -/
theorem Account.corrects (account : Account taxonomy landmarks ⟨true, filter⟩ prepared fixed)
    (accountPlain : Account taxonomy landmarks ⟨false, filter⟩ prepared plain)
    (numbered : taxonomy.Numbered) (turned : fixed.addressFixup = true) :
    fixed.Corrects taxonomy ⟨true, filter⟩ plain := by
  have unturned := accountPlain.unfixed rfl
  have rounds := account.rounds_eq accountPlain rfl rfl
  have tags := account.tags_eq accountPlain rfl
  have discoveries := account.discoveries_eq accountPlain rfl
  constructor
  case reported => exact turned
  case increasing => exact account.increasing
  case types =>
    intro code
    rw [account.types, accountPlain.types,
      Provenance.iff_of_corrected numbered turned unturned tags discoveries rounds, and_or_left,
      ← and_assoc, and_comm (b := taxonomy.codeOf? Landmarks.addressPath = .ok (some code))]
    rfl
  case feature =>
    rw [account.feature, accountPlain.feature, turned, rounds]
    rfl

/-- Without a correction, that it was asked for makes no difference. -/
theorem Account.eq_of_unfixed (account : Account taxonomy landmarks ⟨true, filter⟩ prepared fixed)
    (accountPlain : Account taxonomy landmarks ⟨false, filter⟩ prepared plain)
    (unturned : fixed.addressFixup = false) : fixed = plain := by
  have same := unturned.trans (accountPlain.unfixed rfl).symm
  have rounds := account.rounds_eq accountPlain rfl rfl
  have feature : fixed.feature = plain.feature := by
    rw [account.feature, accountPlain.feature, account.types_eq accountPlain rfl rfl same, same,
      rounds]
  have tags := account.tags_eq accountPlain rfl
  have discoveries := account.discoveries_eq accountPlain rfl
  cases fixed
  cases plain
  rw [Outcome.mk.injEq]
  exact ⟨feature, tags, discoveries, rounds, same⟩

/-- To ask for the correction of addressed entrances changes nothing but addressed entrances. Asked
or not, the element is left with the same tags, and the walk and the rounds are the same. Where a
house and the type of entrances are in the record that was not to be corrected, the other one is
that record corrected; everywhere else the two are equal and no correction is reported. -/
theorem addressFixup_corrects_only (entries : List Entry) (filter : Bool) (element : Element) :
    let taxonomy := (Draft.empty.addAccepted entries).freeze
    ∃ fixed plain left,
      element.classify taxonomy ⟨true, filter⟩ = .ok (fixed, left) ∧
      element.classify taxonomy ⟨false, filter⟩ = .ok (plain, left) ∧
      left = { element with tags := fixed.tags } ∧
      fixed.tags = plain.tags ∧
      fixed.discoveries = plain.discoveries ∧
      fixed.rounds = plain.rounds ∧
      plain.addressFixup = false ∧
      (plain.IsAddressedEntrance taxonomy → fixed.Corrects taxonomy ⟨true, filter⟩ plain) ∧
      (¬ plain.IsAddressedEntrance taxonomy → fixed = plain) := by
  intro taxonomy
  have numbered : taxonomy.Numbered := Taxonomy.numbered_freeze entries
  obtain ⟨landmarks, each⟩ := exists_account entries
  obtain ⟨fixed, ran, account⟩ := each ⟨true, filter⟩ element
  obtain ⟨plain, ranPlain, accountPlain⟩ := each ⟨false, filter⟩ element
  have tags := account.tags_eq accountPlain rfl
  rw [← tags] at ranPlain
  refine ⟨fixed, plain, _, ran, ranPlain, rfl, tags, account.discoveries_eq accountPlain rfl,
    account.rounds_eq accountPlain rfl rfl, accountPlain.unfixed rfl, fun addressed => ?_,
    fun other => ?_⟩
  · exact account.corrects accountPlain numbered
      ((account.addressFixup_iff accountPlain numbered).mpr addressed)
  · rw [← account.addressFixup_iff accountPlain numbered, Bool.not_eq_true] at other
    exact account.eq_of_unfixed accountPlain other

end Classify

end MapTypes
