import PartnerChains.Lib.Runs
import PartnerChains.Lib.Frame
import PartnerChains.Lib.ListOrder
import PartnerChains.Lib.PartitionPoint
import PartnerChains.Lib.Codec
import PartnerChains.Lib.Scale
import PartnerChains.Lib.Cbor
import PartnerChains.Lib.SortedMap
import PartnerChains.Lib.HashMap
import PartnerChains.Lib.ExceptList
import PartnerChains.Lib.Fungible
import PartnerChains.Lib.BinarySearch
import PartnerChains.Domain
import PartnerChains.CandidateKeysCodec
import PartnerChains.MainchainEpoch
import PartnerChains.CommitteePallet
import PartnerChains.SessionSupport
import PartnerChains.CommitteeRotation
import PartnerChains.ProvidedAccounts
import PartnerChains.CommitteeInherent
import PartnerChains.Selection
import PartnerChains.SelectionSeats
import PartnerChains.AuthoritySelection
import PartnerChains.BlockParticipation
import PartnerChains.ParticipationData
import PartnerChains.BlockProducerMetadata
import PartnerChains.PlutusData.Core
import PartnerChains.PlutusData.PermissionedCandidates
import PartnerChains.PlutusData.RegisteredCandidates
import PartnerChains.PlutusData.Datums
import PartnerChains.PlutusCbor
import PartnerChains.Bridge.DataSource
import PartnerChains.Bridge.Refinement
import PartnerChains.GovernedMap.Pallet
import PartnerChains.GovernedMap.Tracking
import PartnerChains.GovernedMap.DataSource
import PartnerChains.McHash.BlockDataSource
import PartnerChains.McHash.InherentDataProvider
import PartnerChains.Bridge.Pallet
import PartnerChains.BlockProducerFees
import PartnerChains.AddressAssociations
import PartnerChains.SidechainPallet
import PartnerChains.CommitteeQuery
import PartnerChains.GovernedMap.Offchain
