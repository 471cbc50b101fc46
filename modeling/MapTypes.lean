import MapTypes.Main
import MapTypes.Metadata
import MapTypes.Proofs.CodeChecks
import MapTypes.Proofs.DraftContents
import MapTypes.Proofs.EntranceCorrection
import MapTypes.Proofs.InertTags
import MapTypes.Proofs.OutcomeAccount
import MapTypes.Proofs.Reclassification
import MapTypes.Proofs.RecordForm
import MapTypes.Proofs.RoundGates
import MapTypes.Proofs.Shorthands
import MapTypes.Proofs.TagResidue
import MapTypes.Proofs.VisibilityFilter
import MapTypes.Proofs.WalkLocality
import MapTypes.Proofs.WalkSoundness
import MapTypes.Proofs.PathRefusals
import MapTypes.Proofs.EntryOrder
import MapTypes.Proofs.FirstNames
import MapTypes.Proofs.AttributeValues
import MapTypes.Proofs.LeadingIntegers
import MapTypes.Proofs.BareIntegers
import MapTypes.Proofs.HouseNames
import MapTypes.Proofs.TableConclusions
import MapTypes.Proofs.CodePacking
import MapTypes.Proofs.CodeIntervals
import MapTypes.Proofs.RecordHistory
import MapTypes.Proofs.HandOver
import MapTypes.Proofs.PopulationRanks
import MapTypes.Proofs.IdSpellings
import MapTypes.Proofs.TagSources
import MapTypes.Proofs.ArenaTiling
