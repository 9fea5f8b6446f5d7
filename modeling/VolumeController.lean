import VolumeController.Main
import VolumeController.Proofs.Attachments
import VolumeController.Proofs.Capacity.Limits
import VolumeController.Proofs.Catalogue.Service
import VolumeController.Proofs.ConfiguredPools
import VolumeController.Proofs.CountedRequests
import VolumeController.Proofs.CreatedSizes
import VolumeController.Proofs.DeleteOutcome
import VolumeController.Proofs.DeletedVolumes
import VolumeController.Proofs.Endpoints
import VolumeController.Proofs.ErrorCodes
import VolumeController.Proofs.ExactDeletes
import VolumeController.Proofs.FailureLog
import VolumeController.Proofs.Failures
import VolumeController.Proofs.Http
import VolumeController.Proofs.ListedPages
import VolumeController.Proofs.Listings
import VolumeController.Proofs.MalformedRequests
import VolumeController.Proofs.NameLocks
import VolumeController.Proofs.PageWalk
import VolumeController.Proofs.Pages.Limits
import VolumeController.Proofs.Promptness
import VolumeController.Proofs.Reports
import VolumeController.Proofs.RetriedCreates
import VolumeController.Proofs.SeparateCreates
import VolumeController.Proofs.Startup
import VolumeController.Proofs.Topology
import VolumeController.Proofs.VolumeAddresses
import VolumeController.Proofs.WellFormed.Requests
