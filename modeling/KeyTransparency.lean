import KeyTransparency.GoInt
import KeyTransparency.Proto
import KeyTransparency.Crypto
import KeyTransparency.Kt.Verify
import KeyTransparency.Grpcc.Client
import KeyTransparency.Grpcc.History
import KeyTransparency.Mutator.Mutation
import KeyTransparency.Adminserver.Server
import KeyTransparency.Grpcc.Update
import KeyTransparency.Monitor.Pairs
import KeyTransparency.Monitor.Goroutines
