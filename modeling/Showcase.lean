import Showcase.Codec
import Showcase.Config
import Showcase.Inspect
import Showcase.Module.Manifest
import Showcase.Proofs.Action
import Showcase.Proofs.RegistryLog
import Showcase.Proofs.FileByFile
import Showcase.Proofs.Resolution
import Showcase.Proofs.TemplateProps
import Showcase.Proofs.Watch
import Showcase.Proofs.RenderTrace
import Showcase.Proofs.StoryLookup
import Showcase.Proofs.StyleAgreement
import Showcase.Proofs.JsonValue
import Showcase.Proofs.Reading
import Showcase.Proofs.ManifestFields
import Showcase.Proofs.ManifestForm
import Showcase.Proofs.ModuleForm
import Showcase.Proofs.Respelling
import Showcase.Proofs.ConfiguredProps
import Showcase.Proofs.EntryReading
import Showcase.Proofs.ConfigFields
import Showcase.Proofs.ConfigRoundTrip
import Showcase.Proofs.ConfigForm
import Showcase.Proofs.ConfigFile
import Showcase.Proofs.ProbeTrace
import Showcase.Proofs.TypedProps
import Showcase.Proofs.ListedConfig
import Showcase.Proofs.PropLayers
import Showcase.Proofs.SelectChoices
import Showcase.Proofs.PlaceholderDefaults
import Showcase.Proofs.SlotAttribute
import Showcase.Proofs.KindInference
import Showcase.Proofs.ExportSelection
import Showcase.Proofs.ReservedPlugins
import Showcase.Proofs.CoherentInputs
import Showcase.Proofs.ConfigOverlay
import Showcase.Proofs.InsertedChoices
import Showcase.Proofs.PathParts
import Showcase.Proofs.TemplateReading
import Showcase.Proofs.ModuleExports
import Showcase.Proofs.PlaceholderMembers
import Showcase.Proofs.KindNames
