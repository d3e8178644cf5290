import Cantil.Proof.AutoLock
import Cantil.Proof.ClientBinding
import Cantil.Proof.ProtectedSlots
import Cantil.Proof.Inheritance
import Cantil.Proof.ChainAgreement
import Cantil.Proof.Truncation
import Cantil.Proof.Possession
import Cantil.Proof.ChainFreshness
import Cantil.Proof.Attribution
import Cantil.Proof.IssuedVerify
import Cantil.Proof.HandshakePayloads
import Cantil.Proof.CborReaders
import Cantil.Proof.SessionServing
import Cantil.Proof.RemoteCalls
import Cantil.Proof.Lockout
import Cantil.Proof.TapProvenance
import Cantil.Proof.KeyCreation
import Cantil.Proof.IssuedStore
import Cantil.Proof.WipeCompleteness
import Cantil.Proof.ForeignVolume
import Cantil.Proof.ResetRecovery
import Cantil.Proof.BondSet
import Cantil.Proof.CrlRoundTrip
import Cantil.Proof.HostCalls
import Cantil.Proof.SessionCertificate
import Cantil.Proof.SlotUpdates
import Cantil.Proof.UnlockEntry
import Cantil.Proof.CrlReads
import Cantil.Proof.DerItems
import Cantil.Proof.MarkerWrites
import Cantil.Firmware.TransportBle
import Cantil.Host.Pairing
import Cantil.Proof.DurableWrites
import Cantil.Proof.X25519Extension
import Cantil.Proof.UnlockAttempts
