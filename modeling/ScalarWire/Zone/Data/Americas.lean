import ScalarWire.Zone.Region

/-!
# Regions of the Americas

The phases of the American regions, from local mean time to the rules in force far ahead.
-/

namespace ScalarWire.Region

def newYork : Region :=
  let localMean : Phase := ⟨⟨-17762, by decide⟩, ⟨-17762, by decide⟩⟩
  let standard : Phase := ⟨⟨-18000, by decide⟩, ⟨-18000, by decide⟩⟩
  let summer : Phase := ⟨⟨-18000, by decide⟩, ⟨-14400, by decide⟩⟩
  ⟨"America/New_York", localMean,
    [(-2717650800, standard), (-1633280400, summer), (-1615140000, standard),
     (-1601830800, summer), (-1583690400, standard), (-1570381200, summer),
     (-1551636000, standard), (-1536512400, summer), (-1523210400, standard),
     (-1504458000, summer), (-1491760800, standard), (-1473008400, summer),
     (-1459706400, standard), (-1441558800, summer), (-1428256800, standard),
     (-1410109200, summer), (-1396807200, standard), (-1378659600, summer),
     (-1365357600, standard), (-1347210000, summer), (-1333908000, standard),
     (-1315155600, summer), (-1301853600, standard), (-1283706000, summer),
     (-1270404000, standard), (-1252256400, summer), (-1238954400, standard),
     (-1220806800, summer), (-1207504800, standard), (-1189357200, summer),
     (-1176055200, standard), (-1157302800, summer), (-1144605600, standard),
     (-1125853200, summer), (-1112551200, standard), (-1094403600, summer),
     (-1081101600, standard), (-1062954000, summer), (-1049652000, standard),
     (-1031504400, summer), (-1018202400, standard), (-1000054800, summer), (-986752800, standard),
     (-968000400, summer), (-955303200, standard), (-936550800, summer), (-923248800, standard),
     (-905101200, summer), (-891799200, standard), (-880218000, summer), (-769395600, summer),
     (-765396000, standard), (-747248400, summer), (-733946400, standard), (-715798800, summer),
     (-702496800, standard), (-684349200, summer), (-671047200, standard), (-652899600, summer),
     (-639597600, standard), (-620845200, summer), (-608148000, standard), (-589395600, summer),
     (-576093600, standard), (-557946000, summer), (-544644000, standard), (-526496400, summer),
     (-513194400, standard), (-495046800, summer), (-481744800, standard), (-463597200, summer),
     (-447271200, standard), (-431542800, summer), (-415821600, standard), (-400093200, summer),
     (-384372000, standard), (-368643600, summer), (-352922400, standard), (-337194000, summer),
     (-321472800, standard), (-305744400, summer), (-289418400, standard), (-273690000, summer),
     (-257968800, standard), (-242240400, summer), (-226519200, standard), (-210790800, summer),
     (-195069600, standard), (-179341200, summer), (-163620000, standard), (-147891600, summer),
     (-131565600, standard), (-116442000, summer), (-100116000, standard), (-84387600, summer),
     (-68666400, standard), (-52938000, summer), (-37216800, standard), (-21488400, summer),
     (-5767200, standard), (9961200, summer), (25682400, standard), (41410800, summer),
     (57736800, standard), (73465200, summer), (89186400, standard), (104914800, summer),
     (120636000, standard), (126687600, summer), (152085600, standard), (162370800, summer),
     (183535200, standard), (199263600, summer), (215589600, standard), (230713200, summer),
     (247039200, standard), (262767600, summer), (278488800, standard), (294217200, summer),
     (309938400, standard), (325666800, summer), (341388000, standard), (357116400, summer),
     (372837600, standard), (388566000, summer), (404892000, standard), (420015600, summer),
     (436341600, standard), (452070000, summer), (467791200, standard), (483519600, summer),
     (499240800, standard), (514969200, summer), (530690400, standard), (544604400, summer),
     (562140000, standard), (576054000, summer), (594194400, standard), (607503600, summer),
     (625644000, standard), (638953200, summer), (657093600, standard), (671007600, summer),
     (688543200, standard), (702457200, summer), (719992800, standard), (733906800, summer),
     (752047200, standard), (765356400, summer), (783496800, standard), (796806000, summer),
     (814946400, standard), (828860400, summer), (846396000, standard), (860310000, summer),
     (877845600, standard), (891759600, summer), (909295200, standard), (923209200, summer),
     (941349600, standard), (954658800, summer), (972799200, standard), (986108400, summer),
     (1004248800, standard), (1018162800, summer), (1035698400, standard), (1049612400, summer),
     (1067148000, standard), (1081062000, summer), (1099202400, standard), (1112511600, summer),
     (1130652000, standard), (1143961200, summer), (1162101600, standard), (1173596400, summer),
     (1194156000, standard), (1205046000, summer), (1225605600, standard), (1236495600, summer),
     (1257055200, standard), (1268550000, summer), (1289109600, standard), (1299999600, summer),
     (1320559200, standard), (1331449200, summer), (1352008800, standard), (1362898800, summer),
     (1383458400, standard), (1394348400, summer), (1414908000, standard), (1425798000, summer),
     (1446357600, standard), (1457852400, summer), (1478412000, standard), (1489302000, summer),
     (1509861600, standard), (1520751600, summer), (1541311200, standard), (1552201200, summer),
     (1572760800, standard), (1583650800, summer), (1604210400, standard), (1615705200, summer),
     (1636264800, standard), (1647154800, summer), (1667714400, standard), (1678604400, summer),
     (1699164000, standard), (1710054000, summer), (1730613600, standard), (1741503600, summer),
     (1762063200, standard), (1772953200, summer), (1793512800, standard), (1805007600, summer),
     (1825567200, standard), (1836457200, summer), (1857016800, standard), (1867906800, summer),
     (1888466400, standard), (1899356400, summer), (1919916000, standard), (1930806000, summer),
     (1951365600, standard), (1962860400, summer), (1983420000, standard), (1994310000, summer),
     (2014869600, standard), (2025759600, summer), (2046319200, standard), (2057209200, summer),
     (2077768800, standard), (2088658800, summer), (2109218400, standard), (2120108400, summer),
     (2140668000, standard), (2152162800, summer), (2172722400, standard), (2183612400, summer),
     (2204172000, standard), (2215062000, summer), (2235621600, standard), (2246511600, summer),
     (2267071200, standard), (2277961200, summer), (2298520800, standard), (2309410800, summer),
     (2329970400, standard), (2341465200, summer), (2362024800, standard), (2372914800, summer),
     (2393474400, standard), (2404364400, summer), (2424924000, standard), (2435814000, summer),
     (2456373600, standard), (2467263600, summer), (2487823200, standard), (2499318000, summer),
     (2519877600, standard), (2530767600, summer), (2551327200, standard), (2562217200, summer),
     (2582776800, standard), (2593666800, summer), (2614226400, standard), (2625116400, summer),
     (2645676000, standard), (2656566000, summer), (2677125600, standard), (2688620400, summer),
     (2709180000, standard), (2720070000, summer), (2740629600, standard), (2751519600, summer),
     (2772079200, standard), (2782969200, summer), (2803528800, standard), (2814418800, summer),
     (2834978400, standard), (2846473200, summer), (2867032800, standard), (2877922800, summer),
     (2898482400, standard), (2909372400, summer), (2929932000, standard), (2940822000, summer),
     (2961381600, standard), (2972271600, summer), (2992831200, standard), (3003721200, summer),
     (3024280800, standard), (3035775600, summer), (3056335200, standard), (3067225200, summer),
     (3087784800, standard), (3098674800, summer), (3119234400, standard), (3130124400, summer),
     (3150684000, standard), (3161574000, summer), (3182133600, standard), (3193023600, summer),
     (3213583200, standard), (3225078000, summer), (3245637600, standard), (3256527600, summer),
     (3277087200, standard), (3287977200, summer), (3308536800, standard), (3319426800, summer),
     (3339986400, standard), (3350876400, summer), (3371436000, standard), (3382930800, summer),
     (3403490400, standard), (3414380400, summer), (3434940000, standard), (3445830000, summer),
     (3466389600, standard), (3477279600, summer), (3497839200, standard), (3508729200, summer),
     (3529288800, standard), (3540178800, summer), (3560738400, standard), (3572233200, summer),
     (3592792800, standard), (3603682800, summer), (3624242400, standard), (3635132400, summer),
     (3655692000, standard), (3666582000, summer), (3687141600, standard), (3698031600, summer),
     (3718591200, standard), (3730086000, summer), (3750645600, standard), (3761535600, summer),
     (3782095200, standard), (3792985200, summer), (3813544800, standard), (3824434800, summer),
     (3844994400, standard), (3855884400, summer), (3876444000, standard), (3887334000, summer),
     (3907893600, standard), (3919388400, summer), (3939948000, standard), (3950838000, summer),
     (3971397600, standard), (3982287600, summer), (4002847200, standard), (4013737200, summer),
     (4034296800, standard), (4045186800, summer), (4065746400, standard), (4076636400, summer),
     (4097196000, standard)]⟩

def usEastern : Region :=
  { newYork with name := "US/Eastern" }

def est5edt : Region :=
  { newYork with name := "EST5EDT" }

def usPacific : Region :=
  let localMean : Phase := ⟨⟨-28378, by decide⟩, ⟨-28378, by decide⟩⟩
  let standard : Phase := ⟨⟨-28800, by decide⟩, ⟨-28800, by decide⟩⟩
  let summer : Phase := ⟨⟨-28800, by decide⟩, ⟨-25200, by decide⟩⟩
  ⟨"US/Pacific", localMean,
    [(-2717640000, standard), (-1633269600, summer), (-1615129200, standard),
     (-1601820000, summer), (-1583679600, standard), (-880207200, summer), (-769395600, summer),
     (-765385200, standard), (-687967140, summer), (-662655600, standard), (-620838000, summer),
     (-608137200, standard), (-589388400, summer), (-576082800, standard), (-557938800, summer),
     (-544633200, standard), (-526489200, summer), (-513183600, standard), (-495039600, summer),
     (-481734000, standard), (-463590000, summer), (-450284400, standard), (-431535600, summer),
     (-418230000, standard), (-400086000, summer), (-386780400, standard), (-368636400, summer),
     (-355330800, standard), (-337186800, summer), (-323881200, standard), (-305737200, summer),
     (-292431600, standard), (-273682800, summer), (-260982000, standard), (-242233200, summer),
     (-226508400, standard), (-210783600, summer), (-195058800, standard), (-179334000, summer),
     (-163609200, standard), (-147884400, summer), (-131554800, standard), (-116434800, summer),
     (-100105200, standard), (-84376800, summer), (-68655600, standard), (-52927200, summer),
     (-37206000, standard), (-21477600, summer), (-5756400, standard), (9972000, summer),
     (25693200, standard), (41421600, summer), (57747600, standard), (73476000, summer),
     (89197200, standard), (104925600, summer), (120646800, standard), (126698400, summer),
     (152096400, standard), (162381600, summer), (183546000, standard), (199274400, summer),
     (215600400, standard), (230724000, summer), (247050000, standard), (262778400, summer),
     (278499600, standard), (294228000, summer), (309949200, standard), (325677600, summer),
     (341398800, standard), (357127200, summer), (372848400, standard), (388576800, summer),
     (404902800, standard), (420026400, summer), (436352400, standard), (452080800, summer),
     (467802000, standard), (483530400, summer), (499251600, standard), (514980000, summer),
     (530701200, standard), (544615200, summer), (562150800, standard), (576064800, summer),
     (594205200, standard), (607514400, summer), (625654800, standard), (638964000, summer),
     (657104400, standard), (671018400, summer), (688554000, standard), (702468000, summer),
     (720003600, standard), (733917600, summer), (752058000, standard), (765367200, summer),
     (783507600, standard), (796816800, summer), (814957200, standard), (828871200, summer),
     (846406800, standard), (860320800, summer), (877856400, standard), (891770400, summer),
     (909306000, standard), (923220000, summer), (941360400, standard), (954669600, summer),
     (972810000, standard), (986119200, summer), (1004259600, standard), (1018173600, summer),
     (1035709200, standard), (1049623200, summer), (1067158800, standard), (1081072800, summer),
     (1099213200, standard), (1112522400, summer), (1130662800, standard), (1143972000, summer),
     (1162112400, standard), (1173607200, summer), (1194166800, standard), (1205056800, summer),
     (1225616400, standard), (1236506400, summer), (1257066000, standard), (1268560800, summer),
     (1289120400, standard), (1300010400, summer), (1320570000, standard), (1331460000, summer),
     (1352019600, standard), (1362909600, summer), (1383469200, standard), (1394359200, summer),
     (1414918800, standard), (1425808800, summer), (1446368400, standard), (1457863200, summer),
     (1478422800, standard), (1489312800, summer), (1509872400, standard), (1520762400, summer),
     (1541322000, standard), (1552212000, summer), (1572771600, standard), (1583661600, summer),
     (1604221200, standard), (1615716000, summer), (1636275600, standard), (1647165600, summer),
     (1667725200, standard), (1678615200, summer), (1699174800, standard), (1710064800, summer),
     (1730624400, standard), (1741514400, summer), (1762074000, standard), (1772964000, summer),
     (1793523600, standard), (1805018400, summer), (1825578000, standard), (1836468000, summer),
     (1857027600, standard), (1867917600, summer), (1888477200, standard), (1899367200, summer),
     (1919926800, standard), (1930816800, summer), (1951376400, standard), (1962871200, summer),
     (1983430800, standard), (1994320800, summer), (2014880400, standard), (2025770400, summer),
     (2046330000, standard), (2057220000, summer), (2077779600, standard), (2088669600, summer),
     (2109229200, standard), (2120119200, summer), (2140678800, standard), (2152173600, summer),
     (2172733200, standard), (2183623200, summer), (2204182800, standard), (2215072800, summer),
     (2235632400, standard), (2246522400, summer), (2267082000, standard), (2277972000, summer),
     (2298531600, standard), (2309421600, summer), (2329981200, standard), (2341476000, summer),
     (2362035600, standard), (2372925600, summer), (2393485200, standard), (2404375200, summer),
     (2424934800, standard), (2435824800, summer), (2456384400, standard), (2467274400, summer),
     (2487834000, standard), (2499328800, summer), (2519888400, standard), (2530778400, summer),
     (2551338000, standard), (2562228000, summer), (2582787600, standard), (2593677600, summer),
     (2614237200, standard), (2625127200, summer), (2645686800, standard), (2656576800, summer),
     (2677136400, standard), (2688631200, summer), (2709190800, standard), (2720080800, summer),
     (2740640400, standard), (2751530400, summer), (2772090000, standard), (2782980000, summer),
     (2803539600, standard), (2814429600, summer), (2834989200, standard), (2846484000, summer),
     (2867043600, standard), (2877933600, summer), (2898493200, standard), (2909383200, summer),
     (2929942800, standard), (2940832800, summer), (2961392400, standard), (2972282400, summer),
     (2992842000, standard), (3003732000, summer), (3024291600, standard), (3035786400, summer),
     (3056346000, standard), (3067236000, summer), (3087795600, standard), (3098685600, summer),
     (3119245200, standard), (3130135200, summer), (3150694800, standard), (3161584800, summer),
     (3182144400, standard), (3193034400, summer), (3213594000, standard), (3225088800, summer),
     (3245648400, standard), (3256538400, summer), (3277098000, standard), (3287988000, summer),
     (3308547600, standard), (3319437600, summer), (3339997200, standard), (3350887200, summer),
     (3371446800, standard), (3382941600, summer), (3403501200, standard), (3414391200, summer),
     (3434950800, standard), (3445840800, summer), (3466400400, standard), (3477290400, summer),
     (3497850000, standard), (3508740000, summer), (3529299600, standard), (3540189600, summer),
     (3560749200, standard), (3572244000, summer), (3592803600, standard), (3603693600, summer),
     (3624253200, standard), (3635143200, summer), (3655702800, standard), (3666592800, summer),
     (3687152400, standard), (3698042400, summer), (3718602000, standard), (3730096800, summer),
     (3750656400, standard), (3761546400, summer), (3782106000, standard), (3792996000, summer),
     (3813555600, standard), (3824445600, summer), (3845005200, standard), (3855895200, summer),
     (3876454800, standard), (3887344800, summer), (3907904400, standard), (3919399200, summer),
     (3939958800, standard), (3950848800, summer), (3971408400, standard), (3982298400, summer),
     (4002858000, standard), (4013748000, summer), (4034307600, standard), (4045197600, summer),
     (4065757200, standard), (4076647200, summer), (4097206800, standard)]⟩

def stJohns : Region :=
  let localMean : Phase := ⟨⟨-12652, by decide⟩, ⟨-12652, by decide⟩⟩
  let summer1 : Phase := ⟨⟨-12652, by decide⟩, ⟨-9052, by decide⟩⟩
  let standard : Phase := ⟨⟨-12600, by decide⟩, ⟨-12600, by decide⟩⟩
  let summer2 : Phase := ⟨⟨-12600, by decide⟩, ⟨-9000, by decide⟩⟩
  let doubleSummer : Phase := ⟨⟨-12600, by decide⟩, ⟨-5400, by decide⟩⟩
  ⟨"America/St_Johns", localMean,
    [(-2713897748, localMean), (-1664130548, summer1), (-1650137348, localMean),
     (-1632076148, summer1), (-1615145348, localMean), (-1598650148, summer1),
     (-1590100148, localMean), (-1567286948, summer1), (-1551565748, localMean),
     (-1535837348, summer1), (-1520116148, localMean), (-1503782948, summer1),
     (-1488666548, localMean), (-1472333348, summer1), (-1457216948, localMean),
     (-1440883748, summer1), (-1425767348, localMean), (-1409434148, summer1),
     (-1394317748, localMean), (-1377984548, summer1), (-1362263348, localMean),
     (-1346534948, summer1), (-1330813748, localMean), (-1314480548, summer1),
     (-1299364148, localMean), (-1283030948, summer1), (-1267914548, localMean),
     (-1251581348, summer1), (-1236464948, localMean), (-1220131748, summer1),
     (-1205015348, localMean), (-1188682148, summer1), (-1172960948, localMean),
     (-1156627748, summer1), (-1141511348, localMean), (-1125178148, summer1),
     (-1110061748, localMean), (-1096921748, standard), (-1093728600, summer2),
     (-1078612200, standard), (-1061670600, summer2), (-1048973400, standard),
     (-1030221000, summer2), (-1017523800, standard), (-998771400, summer2),
     (-986074200, standard), (-966717000, summer2), (-954624600, standard), (-935267400, summer2),
     (-922570200, standard), (-903817800, summer2), (-891120600, standard), (-872368200, summer2),
     (-769395600, summer2), (-765401400, standard), (-746044200, summer2), (-733347000, standard),
     (-714594600, summer2), (-701897400, standard), (-683145000, summer2), (-670447800, standard),
     (-651695400, summer2), (-638998200, standard), (-619641000, summer2), (-606943800, standard),
     (-589401000, summer2), (-576099000, standard), (-557951400, summer2), (-544649400, standard),
     (-526501800, summer2), (-513199800, standard), (-495052200, summer2), (-481750200, standard),
     (-463602600, summer2), (-450300600, standard), (-431548200, summer2), (-418246200, standard),
     (-400098600, summer2), (-386796600, standard), (-368649000, summer2), (-355347000, standard),
     (-337199400, summer2), (-323897400, standard), (-305749800, summer2), (-289423800, standard),
     (-273695400, summer2), (-257974200, standard), (-242245800, summer2), (-226524600, standard),
     (-210796200, summer2), (-195075000, standard), (-179346600, summer2), (-163625400, standard),
     (-147897000, summer2), (-131571000, standard), (-116447400, summer2), (-100121400, standard),
     (-84393000, summer2), (-68671800, standard), (-52943400, summer2), (-37222200, standard),
     (-21493800, summer2), (-5772600, standard), (9955800, summer2), (25677000, standard),
     (41405400, summer2), (57731400, standard), (73459800, summer2), (89181000, standard),
     (104909400, summer2), (120630600, standard), (136359000, summer2), (152080200, standard),
     (167808600, summer2), (183529800, standard), (199258200, summer2), (215584200, standard),
     (230707800, summer2), (247033800, standard), (262762200, summer2), (278483400, standard),
     (294211800, summer2), (309933000, standard), (325661400, summer2), (341382600, standard),
     (357111000, summer2), (372832200, standard), (388560600, summer2), (404886600, standard),
     (420010200, summer2), (436336200, standard), (452064600, summer2), (467785800, standard),
     (483514200, summer2), (499235400, standard), (514963800, summer2), (530685000, standard),
     (544591860, summer2), (562127460, standard), (576041460, doubleSummer), (594178260, standard),
     (607491060, summer2), (625631460, standard), (638940660, summer2), (657081060, standard),
     (670995060, summer2), (688530660, standard), (702444660, summer2), (719980260, standard),
     (733894260, summer2), (752034660, standard), (765343860, summer2), (783484260, standard),
     (796793460, summer2), (814933860, standard), (828847860, summer2), (846383460, standard),
     (860297460, summer2), (877833060, standard), (891747060, summer2), (909282660, standard),
     (923196660, summer2), (941337060, standard), (954646260, summer2), (972786660, standard),
     (986095860, summer2), (1004236260, standard), (1018150260, summer2), (1035685860, standard),
     (1049599860, summer2), (1067135460, standard), (1081049460, summer2), (1099189860, standard),
     (1112499060, summer2), (1130639460, standard), (1143948660, summer2), (1162089060, standard),
     (1173583860, summer2), (1194143460, standard), (1205033460, summer2), (1225593060, standard),
     (1236483060, summer2), (1257042660, standard), (1268537460, summer2), (1289097060, standard),
     (1299987060, summer2), (1320553800, standard), (1331443800, summer2), (1352003400, standard),
     (1362893400, summer2), (1383453000, standard), (1394343000, summer2), (1414902600, standard),
     (1425792600, summer2), (1446352200, standard), (1457847000, summer2), (1478406600, standard),
     (1489296600, summer2), (1509856200, standard), (1520746200, summer2), (1541305800, standard),
     (1552195800, summer2), (1572755400, standard), (1583645400, summer2), (1604205000, standard),
     (1615699800, summer2), (1636259400, standard), (1647149400, summer2), (1667709000, standard),
     (1678599000, summer2), (1699158600, standard), (1710048600, summer2), (1730608200, standard),
     (1741498200, summer2), (1762057800, standard), (1772947800, summer2), (1793507400, standard),
     (1805002200, summer2), (1825561800, standard), (1836451800, summer2), (1857011400, standard),
     (1867901400, summer2), (1888461000, standard), (1899351000, summer2), (1919910600, standard),
     (1930800600, summer2), (1951360200, standard), (1962855000, summer2), (1983414600, standard),
     (1994304600, summer2), (2014864200, standard), (2025754200, summer2), (2046313800, standard),
     (2057203800, summer2), (2077763400, standard), (2088653400, summer2), (2109213000, standard),
     (2120103000, summer2), (2140662600, standard), (2152157400, summer2), (2172717000, standard),
     (2183607000, summer2), (2204166600, standard), (2215056600, summer2), (2235616200, standard),
     (2246506200, summer2), (2267065800, standard), (2277955800, summer2), (2298515400, standard),
     (2309405400, summer2), (2329965000, standard), (2341459800, summer2), (2362019400, standard),
     (2372909400, summer2), (2393469000, standard), (2404359000, summer2), (2424918600, standard),
     (2435808600, summer2), (2456368200, standard), (2467258200, summer2), (2487817800, standard),
     (2499312600, summer2), (2519872200, standard), (2530762200, summer2), (2551321800, standard),
     (2562211800, summer2), (2582771400, standard), (2593661400, summer2), (2614221000, standard),
     (2625111000, summer2), (2645670600, standard), (2656560600, summer2), (2677120200, standard),
     (2688615000, summer2), (2709174600, standard), (2720064600, summer2), (2740624200, standard),
     (2751514200, summer2), (2772073800, standard), (2782963800, summer2), (2803523400, standard),
     (2814413400, summer2), (2834973000, standard), (2846467800, summer2), (2867027400, standard),
     (2877917400, summer2), (2898477000, standard), (2909367000, summer2), (2929926600, standard),
     (2940816600, summer2), (2961376200, standard), (2972266200, summer2), (2992825800, standard),
     (3003715800, summer2), (3024275400, standard), (3035770200, summer2), (3056329800, standard),
     (3067219800, summer2), (3087779400, standard), (3098669400, summer2), (3119229000, standard),
     (3130119000, summer2), (3150678600, standard), (3161568600, summer2), (3182128200, standard),
     (3193018200, summer2), (3213577800, standard), (3225072600, summer2), (3245632200, standard),
     (3256522200, summer2), (3277081800, standard), (3287971800, summer2), (3308531400, standard),
     (3319421400, summer2), (3339981000, standard), (3350871000, summer2), (3371430600, standard),
     (3382925400, summer2), (3403485000, standard), (3414375000, summer2), (3434934600, standard),
     (3445824600, summer2), (3466384200, standard), (3477274200, summer2), (3497833800, standard),
     (3508723800, summer2), (3529283400, standard), (3540173400, summer2), (3560733000, standard),
     (3572227800, summer2), (3592787400, standard), (3603677400, summer2), (3624237000, standard),
     (3635127000, summer2), (3655686600, standard), (3666576600, summer2), (3687136200, standard),
     (3698026200, summer2), (3718585800, standard), (3730080600, summer2), (3750640200, standard),
     (3761530200, summer2), (3782089800, standard), (3792979800, summer2), (3813539400, standard),
     (3824429400, summer2), (3844989000, standard), (3855879000, summer2), (3876438600, standard),
     (3887328600, summer2), (3907888200, standard), (3919383000, summer2), (3939942600, standard),
     (3950832600, summer2), (3971392200, standard), (3982282200, summer2), (4002841800, standard),
     (4013731800, summer2), (4034291400, standard), (4045181400, summer2), (4065741000, standard),
     (4076631000, summer2), (4097190600, standard)]⟩

def caracas : Region :=
  let localMean : Phase := ⟨⟨-16064, by decide⟩, ⟨-16064, by decide⟩⟩
  let standard1 : Phase := ⟨⟨-16060, by decide⟩, ⟨-16060, by decide⟩⟩
  let standard2 : Phase := ⟨⟨-16200, by decide⟩, ⟨-16200, by decide⟩⟩
  let standard3 : Phase := ⟨⟨-14400, by decide⟩, ⟨-14400, by decide⟩⟩
  ⟨"America/Caracas", localMean,
    [(-2524505536, standard1), (-1826739140, standard2), (-157750200, standard3),
     (1197183600, standard2), (1462086000, standard3)]⟩

def saoPaulo : Region :=
  let localMean : Phase := ⟨⟨-11188, by decide⟩, ⟨-11188, by decide⟩⟩
  let standard : Phase := ⟨⟨-10800, by decide⟩, ⟨-10800, by decide⟩⟩
  let summer : Phase := ⟨⟨-10800, by decide⟩, ⟨-7200, by decide⟩⟩
  ⟨"America/Sao_Paulo", localMean,
    [(-1767214412, standard), (-1206957600, summer), (-1191362400, standard),
     (-1175374800, summer), (-1159826400, standard), (-633819600, summer), (-622069200, standard),
     (-602283600, summer), (-591832800, standard), (-570747600, summer), (-560210400, standard),
     (-539125200, summer), (-531352800, standard), (-195426000, summer), (-184197600, standard),
     (-155163600, summer), (-150069600, standard), (-128898000, summer), (-121125600, standard),
     (-99954000, summer), (-89589600, standard), (-68418000, summer), (-57967200, standard),
     (499748400, summer), (511236000, standard), (530593200, summer), (540266400, standard),
     (562129200, summer), (571197600, standard), (592974000, summer), (602042400, standard),
     (624423600, summer), (634701600, standard), (656478000, summer), (666756000, standard),
     (687927600, summer), (697600800, standard), (719982000, summer), (728445600, standard),
     (750826800, summer), (761709600, standard), (782276400, summer), (793159200, standard),
     (813726000, summer), (824004000, standard), (844570800, summer), (856058400, standard),
     (876106800, summer), (888717600, standard), (908074800, summer), (919562400, standard),
     (938919600, summer), (951616800, standard), (970974000, summer), (982461600, standard),
     (1003028400, summer), (1013911200, standard), (1036292400, summer), (1045360800, standard),
     (1066532400, summer), (1076810400, standard), (1099364400, summer), (1108864800, standard),
     (1129431600, summer), (1140314400, standard), (1162695600, summer), (1172368800, standard),
     (1192330800, summer), (1203213600, standard), (1224385200, summer), (1234663200, standard),
     (1255834800, summer), (1266717600, standard), (1287284400, summer), (1298167200, standard),
     (1318734000, summer), (1330221600, standard), (1350788400, summer), (1361066400, standard),
     (1382238000, summer), (1392516000, standard), (1413687600, summer), (1424570400, standard),
     (1445137200, summer), (1456020000, standard), (1476586800, summer), (1487469600, standard),
     (1508036400, summer), (1518919200, standard), (1541300400, summer), (1550368800, standard)]⟩

def est : Region :=
  let localMean : Phase := ⟨⟨-19088, by decide⟩, ⟨-19088, by decide⟩⟩
  let standard1 : Phase := ⟨⟨-19176, by decide⟩, ⟨-19176, by decide⟩⟩
  let standard2 : Phase := ⟨⟨-18000, by decide⟩, ⟨-18000, by decide⟩⟩
  ⟨"EST", localMean,
    [(-2524502512, standard1), (-1946918424, standard2)]⟩

/-- The name counts hours west of Greenwich. -/
def gmtPlus3 : Region :=
  fixed "Etc/GMT+3" ⟨-10800, by decide⟩

end ScalarWire.Region
