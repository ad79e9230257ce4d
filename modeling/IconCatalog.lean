import IconCatalog.Files.Lemmas
import IconCatalog.Main
import IconCatalog.Proofs.AuditOrder
import IconCatalog.Proofs.CatalogIcons
import IconCatalog.Proofs.DefaultSettingsFile
import IconCatalog.Proofs.EffectiveSettings
import IconCatalog.Proofs.ExportArguments
import IconCatalog.Proofs.ExportBatches
import IconCatalog.Proofs.ExportOrder
import IconCatalog.Proofs.ExportRuns
import IconCatalog.Proofs.ExportSequences
import IconCatalog.Proofs.ExportedFiles
import IconCatalog.Proofs.Exporting
import IconCatalog.Proofs.FailedExports
import IconCatalog.Proofs.FileOperations
import IconCatalog.Proofs.FormatNames
import IconCatalog.Proofs.ImageConstruction
import IconCatalog.Proofs.JsonNumber
import IconCatalog.Proofs.JsonText
import IconCatalog.Proofs.LoaderCalls
import IconCatalog.Proofs.Outcome
import IconCatalog.Proofs.OutputLimit
import IconCatalog.Proofs.PathNames
import IconCatalog.Proofs.PickedIcons
import IconCatalog.Proofs.PixelGrid
import IconCatalog.Proofs.PixelPlaces
import IconCatalog.Proofs.PixelRows
import IconCatalog.Proofs.Premultiplication
import IconCatalog.Proofs.RepeatedLoads
import IconCatalog.Proofs.RepeatedOverrides
import IconCatalog.Proofs.RunHistory
import IconCatalog.Proofs.RunSteps
import IconCatalog.Proofs.SettingsInitialization
import IconCatalog.Proofs.SettingsPersistence
import IconCatalog.Proofs.SettingsTexts
import IconCatalog.Proofs.StandingDirectories
import IconCatalog.Proofs.SummaryText
import IconCatalog.Proofs.TreeChanges
import IconCatalog.Proofs.UnknownNames
import IconCatalog.Proofs.Utf8Canonical
import IconCatalog.Summary.Reading
