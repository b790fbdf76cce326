import SiteModules.CommandLine
import SiteModules.Main
import SiteModules.Proofs.Resolver.Containment
import SiteModules.Proofs.Resolver.Deduplication
import SiteModules.Proofs.Resolver.Precedence
import SiteModules.Proofs.Settings.Environment
import SiteModules.Proofs.Settings.Merge
import SiteModules.Proofs.Document.Keys
import SiteModules.Proofs.Settings.Scopes
import SiteModules.Proofs.Naming.Spelling
import SiteModules.Proofs.Naming.Parts
import SiteModules.Proofs.Naming.Ranking
import SiteModules.Proofs.Naming.Reread
import SiteModules.Proofs.Resolver.Spelling
import SiteModules.Proofs.Resolver.Loading
import SiteModules.Proofs.Unforeseen
import SiteModules.Proofs.Manifest.Shape
import SiteModules.Proofs.Manifest.Agreement
import SiteModules.Proofs.Locator.Garbled
import SiteModules.Proofs.Resolver.Closed
import SiteModules.Proofs.Path.Collapse
import SiteModules.Proofs.Path.Written
import SiteModules.Proofs.Load.Target
import SiteModules.Proofs.Load.Registry
import SiteModules.Proofs.Load.Directory
import SiteModules.Proofs.Locator.Installed
import SiteModules.Proofs.Resolver.Anchor
import SiteModules.Proofs.Resolver.Blame
import SiteModules.Proofs.Resolver.Refusal
import SiteModules.Proofs.Resolver.Relative
import SiteModules.Proofs.Manifest.Comparison
import SiteModules.Proofs.Resolver.Objects
import SiteModules.Proofs.Load.Escape
import SiteModules.Proofs.Load.Undo
import SiteModules.Proofs.Load.Suffix
import SiteModules.Proofs.Settings.Regroup
import SiteModules.Proofs.Settings.Notices
