import CensusNode.Main
import CensusNode.Proofs.Census.RootSplit
import CensusNode.Proofs.Census.RootText
import CensusNode.Proofs.Census.Summary
import CensusNode.Proofs.Codec.DataModel
import CensusNode.Proofs.Codec.Truncation
import CensusNode.Proofs.CommandLine.Precedence
import CensusNode.Proofs.Config.Forms
import CensusNode.Proofs.Config.Places
import CensusNode.Proofs.Json.DataModel
import CensusNode.Proofs.Ledger.Intact
import CensusNode.Proofs.Ledger.WholeWalks
import CensusNode.Proofs.Registry.Loading
import CensusNode.Proofs.Registry.NewCensus
import CensusNode.Proofs.Registry.Seeding
import CensusNode.Proofs.Service.Batches
import CensusNode.Proofs.Service.Closing
import CensusNode.Proofs.Service.Commands
import CensusNode.Proofs.Service.Crash
import CensusNode.Proofs.Service.Ingestion
import CensusNode.Proofs.Service.PrintedVotes
import CensusNode.Proofs.Service.Tenants
