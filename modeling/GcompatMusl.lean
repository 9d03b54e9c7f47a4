import GcompatMusl.AddressLookup
import GcompatMusl.Arc4random
import GcompatMusl.Atexit
import GcompatMusl.ClockWait
import GcompatMusl.CompatWrappers
import GcompatMusl.CompressionRuns
import GcompatMusl.DnsResponse
import GcompatMusl.EntryRuns
import GcompatMusl.EnvironRuns
import GcompatMusl.FlushHonesty
import GcompatMusl.GroupRace
import GcompatMusl.HsearchRuns
import GcompatMusl.IconvAccess
import GcompatMusl.IconvAccounting
import GcompatMusl.InitFini
import GcompatMusl.Lfs64
import GcompatMusl.LocalTime
import GcompatMusl.Lock
import GcompatMusl.MakeContext
import GcompatMusl.MultibyteFortify
import GcompatMusl.Mutex
import GcompatMusl.NameCanon
import GcompatMusl.NsParse
import GcompatMusl.ObstackRuns
import GcompatMusl.Once
import GcompatMusl.RandomAgreement
import GcompatMusl.Relr
import GcompatMusl.ResMsendSlots
import GcompatMusl.RwLock
import GcompatMusl.Semaphore
import GcompatMusl.SlotHeader
import GcompatMusl.Smoothsort
import GcompatMusl.StaticTls
import GcompatMusl.Strfry
import GcompatMusl.Strftime
import GcompatMusl.StrtoSpec
import GcompatMusl.Vsnprintf
import GcompatMusl.WideFortify
