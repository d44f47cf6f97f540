import SubstrateKitties.Foundation.Blake2b
import SubstrateKitties.Foundation.Block
import SubstrateKitties.Foundation.Bits
import SubstrateKitties.Foundation.Codec
import SubstrateKitties.Foundation.Composition
import SubstrateKitties.Foundation.Crossings
import SubstrateKitties.Foundation.Dispatch
import SubstrateKitties.Foundation.Excerpt
import SubstrateKitties.Foundation.Footprint
import SubstrateKitties.Foundation.Frame
import SubstrateKitties.Foundation.GenePool
import SubstrateKitties.Foundation.Journal
import SubstrateKitties.Foundation.Ledger
import SubstrateKitties.Foundation.Lists
import SubstrateKitties.Foundation.Pedigree
import SubstrateKitties.Foundation.Refinement
import SubstrateKitties.Foundation.Search
import SubstrateKitties.Foundation.Sequence
import SubstrateKitties.Foundation.Stall
import SubstrateKitties.Foundation.Steering
import SubstrateKitties.Foundation.Trace
import SubstrateKitties.Foundation.Words
import SubstrateKitties.Pallet.Types
import SubstrateKitties.Pallet.Config
import SubstrateKitties.Pallet.Calls
import SubstrateKitties.Pallet.Chain
import SubstrateKitties.Pallet.Mock
import SubstrateKitties.Pallet.Effects
import SubstrateKitties.Pallet.Genetics
import SubstrateKitties.Pallet.Genome
import SubstrateKitties.Pallet.Validation
import SubstrateKitties.Pallet.Atomicity
import SubstrateKitties.Pallet.Footprints
import SubstrateKitties.Pallet.Foreign
import SubstrateKitties.Pallet.Steps
import SubstrateKitties.Pallet.OffchainWorker
import SubstrateKitties.Runs.Population
import SubstrateKitties.Runs.Lineage
import SubstrateKitties.Runs.Ownership
import SubstrateKitties.Runs.Trades
import SubstrateKitties.Runs.Births
import SubstrateKitties.Runs.Breeding
import SubstrateKitties.Runs.Listing
import SubstrateKitties.Runs.EventLog
import SubstrateKitties.Runs.Accounts
import SubstrateKitties.Runs.Absence
import SubstrateKitties.Runs.Purse
import SubstrateKitties.Runs.Rearranging
import SubstrateKitties.Runs.Backup
import SubstrateKitties.Runs.Excerpts
import SubstrateKitties.Runs.Nonce
import SubstrateKitties.Runs.WorkerBounds
import SubstrateKitties.Runs.Worker
import SubstrateKitties.Runs.Reach
import SubstrateKitties.Runs.Network
import SubstrateKitties.Runs.Blocks
import SubstrateKitties.Runs.GenePool
import SubstrateKitties.Runs.Payloads
import SubstrateKitties.Market.Rules
import SubstrateKitties.Market.Refinement
import SubstrateKitties.Market.Chance
import SubstrateKitties.Market.Founding
import SubstrateKitties.Template.Calls
import SubstrateKitties.Runtime.Chain
import SubstrateKitties.Runtime.Runs
