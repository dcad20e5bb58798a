import ScalarWire.Zone.Region

/-!
# Regions of Africa, Asia and the Pacific

The phases of the regions from Monrovia eastward to Apia, from local mean time to the rules in
force far ahead. Manila, Apia and Kwajalein have crossed the date line.
-/

namespace ScalarWire.Region

def monrovia : Region :=
  let localMean : Phase := ⟨⟨-2588, by decide⟩, ⟨-2588, by decide⟩⟩
  let standard1 : Phase := ⟨⟨-2670, by decide⟩, ⟨-2670, by decide⟩⟩
  let standard2 : Phase := ⟨.utc, .utc⟩
  ⟨"Africa/Monrovia", localMean,
    [(-2776979812, localMean), (-1604359012, standard1), (63593070, standard2)]⟩

def kathmandu : Region :=
  let localMean : Phase := ⟨⟨20476, by decide⟩, ⟨20476, by decide⟩⟩
  let standard1 : Phase := ⟨⟨19800, by decide⟩, ⟨19800, by decide⟩⟩
  let standard2 : Phase := ⟨⟨20700, by decide⟩, ⟨20700, by decide⟩⟩
  ⟨"Asia/Kathmandu", localMean,
    [(-1577943676, standard1), (504901800, standard2)]⟩

def kolkata : Region :=
  let localMean : Phase := ⟨⟨21208, by decide⟩, ⟨21208, by decide⟩⟩
  let standard1 : Phase := ⟨⟨21200, by decide⟩, ⟨21200, by decide⟩⟩
  let standard2 : Phase := ⟨⟨19270, by decide⟩, ⟨19270, by decide⟩⟩
  let standard3 : Phase := ⟨⟨19800, by decide⟩, ⟨19800, by decide⟩⟩
  let summer : Phase := ⟨⟨19800, by decide⟩, ⟨23400, by decide⟩⟩
  ⟨"Asia/Kolkata", localMean,
    [(-3645237208, standard1), (-3155694800, standard2), (-2019705670, standard3),
     (-891581400, summer), (-872058600, standard3), (-862637400, summer), (-764145000, standard3)]⟩

def manila : Region :=
  let localMean : Phase := ⟨⟨-57368, by decide⟩, ⟨-57368, by decide⟩⟩
  let standard1 : Phase := ⟨⟨29032, by decide⟩, ⟨29032, by decide⟩⟩
  let standard2 : Phase := ⟨⟨28800, by decide⟩, ⟨28800, by decide⟩⟩
  let summer : Phase := ⟨⟨28800, by decide⟩, ⟨32400, by decide⟩⟩
  let standard3 : Phase := ⟨⟨32400, by decide⟩, ⟨32400, by decide⟩⟩
  ⟨"Asia/Manila", localMean,
    [(-3944621032, standard1), (-2219083200, standard2), (-1046678400, summer),
     (-1040115600, standard2), (-885024000, summer), (-880016400, standard3), (-783594000, summer),
     (-760093200, standard2), (-496224000, summer), (-491562000, standard2), (228326400, summer),
     (243702000, standard2), (643219200, summer), (649177200, standard2)]⟩

def pyongyang : Region :=
  let localMean : Phase := ⟨⟨30180, by decide⟩, ⟨30180, by decide⟩⟩
  let standard1 : Phase := ⟨⟨30600, by decide⟩, ⟨30600, by decide⟩⟩
  let standard2 : Phase := ⟨⟨32400, by decide⟩, ⟨32400, by decide⟩⟩
  ⟨"Asia/Pyongyang", localMean,
    [(-1948782180, standard1), (-1830414600, standard2), (-768646800, standard2),
     (1439564400, standard1), (1525446000, standard2)]⟩

def tokyo : Region :=
  let localMean : Phase := ⟨⟨33539, by decide⟩, ⟨33539, by decide⟩⟩
  let standard : Phase := ⟨⟨32400, by decide⟩, ⟨32400, by decide⟩⟩
  let summer : Phase := ⟨⟨32400, by decide⟩, ⟨36000, by decide⟩⟩
  ⟨"Asia/Tokyo", localMean,
    [(-2587712400, standard), (-683802000, summer), (-672310800, standard), (-654771600, summer),
     (-640861200, standard), (-620298000, summer), (-609411600, standard), (-588848400, summer),
     (-577962000, standard)]⟩

def japan : Region :=
  { tokyo with name := "Japan" }

def lordHowe : Region :=
  let localMean : Phase := ⟨⟨38180, by decide⟩, ⟨38180, by decide⟩⟩
  let standard1 : Phase := ⟨⟨36000, by decide⟩, ⟨36000, by decide⟩⟩
  let standard2 : Phase := ⟨⟨37800, by decide⟩, ⟨37800, by decide⟩⟩
  let summer1 : Phase := ⟨⟨37800, by decide⟩, ⟨41400, by decide⟩⟩
  let summer2 : Phase := ⟨⟨37800, by decide⟩, ⟨39600, by decide⟩⟩
  ⟨"Australia/Lord_Howe", localMean,
    [(-2364114980, standard1), (352216800, standard2), (372785400, summer1),
     (384273000, standard2), (404839800, summer1), (415722600, standard2), (436289400, summer1),
     (447172200, standard2), (467739000, summer1), (478621800, standard2), (499188600, summer2),
     (511282800, standard2), (530033400, summer2), (542732400, standard2), (562087800, summer2),
     (574786800, standard2), (594142200, summer2), (606236400, standard2), (625591800, summer2),
     (636476400, standard2), (657041400, summer2), (667926000, standard2), (688491000, summer2),
     (699375600, standard2), (719940600, summer2), (731430000, standard2), (751995000, summer2),
     (762879600, standard2), (783444600, summer2), (794329200, standard2), (814894200, summer2),
     (828198000, standard2), (846343800, summer2), (859647600, standard2), (877793400, summer2),
     (891097200, standard2), (909243000, summer2), (922546800, standard2), (941297400, summer2),
     (953996400, standard2), (967303800, summer2), (985446000, standard2), (1004196600, summer2),
     (1017500400, standard2), (1035646200, summer2), (1048950000, standard2),
     (1067095800, summer2), (1080399600, standard2), (1099150200, summer2),
     (1111849200, standard2), (1130599800, summer2), (1143903600, standard2),
     (1162049400, summer2), (1174748400, standard2), (1193499000, summer2),
     (1207407600, standard2), (1223134200, summer2), (1238857200, standard2),
     (1254583800, summer2), (1270306800, standard2), (1286033400, summer2),
     (1301756400, standard2), (1317483000, summer2), (1333206000, standard2),
     (1349537400, summer2), (1365260400, standard2), (1380987000, summer2),
     (1396710000, standard2), (1412436600, summer2), (1428159600, standard2),
     (1443886200, summer2), (1459609200, standard2), (1475335800, summer2),
     (1491058800, standard2), (1506785400, summer2), (1522508400, standard2),
     (1538839800, summer2), (1554562800, standard2), (1570289400, summer2),
     (1586012400, standard2), (1601739000, summer2), (1617462000, standard2),
     (1633188600, summer2), (1648911600, standard2), (1664638200, summer2),
     (1680361200, standard2), (1696087800, summer2), (1712415600, standard2),
     (1728142200, summer2), (1743865200, standard2), (1759591800, summer2),
     (1775314800, standard2), (1791041400, summer2), (1806764400, standard2),
     (1822491000, summer2), (1838214000, standard2), (1853940600, summer2),
     (1869663600, standard2), (1885995000, summer2), (1901718000, standard2),
     (1917444600, summer2), (1933167600, standard2), (1948894200, summer2),
     (1964617200, standard2), (1980343800, summer2), (1996066800, standard2),
     (2011793400, summer2), (2027516400, standard2), (2043243000, summer2),
     (2058966000, standard2), (2075297400, summer2), (2091020400, standard2),
     (2106747000, summer2), (2122470000, standard2), (2138196600, summer2),
     (2153919600, standard2), (2169646200, summer2), (2185369200, standard2),
     (2201095800, summer2), (2216818800, standard2), (2233150200, summer2),
     (2248873200, standard2), (2264599800, summer2), (2280322800, standard2),
     (2296049400, summer2), (2311772400, standard2), (2327499000, summer2),
     (2343222000, standard2), (2358948600, summer2), (2374671600, standard2),
     (2390398200, summer2), (2406121200, standard2), (2422452600, summer2),
     (2438175600, standard2), (2453902200, summer2), (2469625200, standard2),
     (2485351800, summer2), (2501074800, standard2), (2516801400, summer2),
     (2532524400, standard2), (2548251000, summer2), (2563974000, standard2),
     (2579700600, summer2), (2596028400, standard2), (2611755000, summer2),
     (2627478000, standard2), (2643204600, summer2), (2658927600, standard2),
     (2674654200, summer2), (2690377200, standard2), (2706103800, summer2),
     (2721826800, standard2), (2737553400, summer2), (2753276400, standard2),
     (2769607800, summer2), (2785330800, standard2), (2801057400, summer2),
     (2816780400, standard2), (2832507000, summer2), (2848230000, standard2),
     (2863956600, summer2), (2879679600, standard2), (2895406200, summer2),
     (2911129200, standard2), (2926855800, summer2), (2942578800, standard2),
     (2958910200, summer2), (2974633200, standard2), (2990359800, summer2),
     (3006082800, standard2), (3021809400, summer2), (3037532400, standard2),
     (3053259000, summer2), (3068982000, standard2), (3084708600, summer2),
     (3100431600, standard2), (3116763000, summer2), (3132486000, standard2),
     (3148212600, summer2), (3163935600, standard2), (3179662200, summer2),
     (3195385200, standard2), (3211111800, summer2), (3226834800, standard2),
     (3242561400, summer2), (3258284400, standard2), (3274011000, summer2),
     (3289734000, standard2), (3306065400, summer2), (3321788400, standard2),
     (3337515000, summer2), (3353238000, standard2), (3368964600, summer2),
     (3384687600, standard2), (3400414200, summer2), (3416137200, standard2),
     (3431863800, summer2), (3447586800, standard2), (3463313400, summer2),
     (3479641200, standard2), (3495367800, summer2), (3511090800, standard2),
     (3526817400, summer2), (3542540400, standard2), (3558267000, summer2),
     (3573990000, standard2), (3589716600, summer2), (3605439600, standard2),
     (3621166200, summer2), (3636889200, standard2), (3653220600, summer2),
     (3668943600, standard2), (3684670200, summer2), (3700393200, standard2),
     (3716119800, summer2), (3731842800, standard2), (3747569400, summer2),
     (3763292400, standard2), (3779019000, summer2), (3794742000, standard2),
     (3810468600, summer2), (3826191600, standard2), (3842523000, summer2),
     (3858246000, standard2), (3873972600, summer2), (3889695600, standard2),
     (3905422200, summer2), (3921145200, standard2), (3936871800, summer2),
     (3952594800, standard2), (3968321400, summer2), (3984044400, standard2),
     (4000375800, summer2), (4016098800, standard2), (4031825400, summer2),
     (4047548400, standard2), (4063275000, summer2), (4078998000, standard2),
     (4094724600, summer2)]⟩

def sydney : Region :=
  let localMean : Phase := ⟨⟨36292, by decide⟩, ⟨36292, by decide⟩⟩
  let standard : Phase := ⟨⟨36000, by decide⟩, ⟨36000, by decide⟩⟩
  let summer : Phase := ⟨⟨36000, by decide⟩, ⟨39600, by decide⟩⟩
  ⟨"Australia/Sydney", localMean,
    [(-2364113092, standard), (-1672560000, summer), (-1665388800, standard), (-883641600, summer),
     (-876124800, standard), (-860400000, summer), (-844675200, standard), (-828345600, summer),
     (-813225600, standard), (57686400, summer), (67968000, standard), (89136000, summer),
     (100022400, standard), (120585600, summer), (131472000, standard), (152035200, summer),
     (162921600, standard), (183484800, summer), (194976000, standard), (215539200, summer),
     (226425600, standard), (246988800, summer), (257875200, standard), (278438400, summer),
     (289324800, standard), (309888000, summer), (320774400, standard), (341337600, summer),
     (352224000, standard), (372787200, summer), (386697600, standard), (404841600, summer),
     (415728000, standard), (436291200, summer), (447177600, standard), (467740800, summer),
     (478627200, standard), (499190400, summer), (511286400, standard), (530035200, summer),
     (542736000, standard), (562089600, summer), (574790400, standard), (594144000, summer),
     (606240000, standard), (625593600, summer), (636480000, standard), (657043200, summer),
     (667929600, standard), (688492800, summer), (699379200, standard), (719942400, summer),
     (731433600, standard), (751996800, summer), (762883200, standard), (783446400, summer),
     (794332800, standard), (814896000, summer), (828201600, standard), (846345600, summer),
     (859651200, standard), (877795200, summer), (891100800, standard), (909244800, summer),
     (922550400, standard), (941299200, summer), (954000000, standard), (967305600, summer),
     (985449600, standard), (1004198400, summer), (1017504000, standard), (1035648000, summer),
     (1048953600, standard), (1067097600, summer), (1080403200, standard), (1099152000, summer),
     (1111852800, standard), (1130601600, summer), (1143907200, standard), (1162051200, summer),
     (1174752000, standard), (1193500800, summer), (1207411200, standard), (1223136000, summer),
     (1238860800, standard), (1254585600, summer), (1270310400, standard), (1286035200, summer),
     (1301760000, standard), (1317484800, summer), (1333209600, standard), (1349539200, summer),
     (1365264000, standard), (1380988800, summer), (1396713600, standard), (1412438400, summer),
     (1428163200, standard), (1443888000, summer), (1459612800, standard), (1475337600, summer),
     (1491062400, standard), (1506787200, summer), (1522512000, standard), (1538841600, summer),
     (1554566400, standard), (1570291200, summer), (1586016000, standard), (1601740800, summer),
     (1617465600, standard), (1633190400, summer), (1648915200, standard), (1664640000, summer),
     (1680364800, standard), (1696089600, summer), (1712419200, standard), (1728144000, summer),
     (1743868800, standard), (1759593600, summer), (1775318400, standard), (1791043200, summer),
     (1806768000, standard), (1822492800, summer), (1838217600, standard), (1853942400, summer),
     (1869667200, standard), (1885996800, summer), (1901721600, standard), (1917446400, summer),
     (1933171200, standard), (1948896000, summer), (1964620800, standard), (1980345600, summer),
     (1996070400, standard), (2011795200, summer), (2027520000, standard), (2043244800, summer),
     (2058969600, standard), (2075299200, summer), (2091024000, standard), (2106748800, summer),
     (2122473600, standard), (2138198400, summer), (2153923200, standard), (2169648000, summer),
     (2185372800, standard), (2201097600, summer), (2216822400, standard), (2233152000, summer),
     (2248876800, standard), (2264601600, summer), (2280326400, standard), (2296051200, summer),
     (2311776000, standard), (2327500800, summer), (2343225600, standard), (2358950400, summer),
     (2374675200, standard), (2390400000, summer), (2406124800, standard), (2422454400, summer),
     (2438179200, standard), (2453904000, summer), (2469628800, standard), (2485353600, summer),
     (2501078400, standard), (2516803200, summer), (2532528000, standard), (2548252800, summer),
     (2563977600, standard), (2579702400, summer), (2596032000, standard), (2611756800, summer),
     (2627481600, standard), (2643206400, summer), (2658931200, standard), (2674656000, summer),
     (2690380800, standard), (2706105600, summer), (2721830400, standard), (2737555200, summer),
     (2753280000, standard), (2769609600, summer), (2785334400, standard), (2801059200, summer),
     (2816784000, standard), (2832508800, summer), (2848233600, standard), (2863958400, summer),
     (2879683200, standard), (2895408000, summer), (2911132800, standard), (2926857600, summer),
     (2942582400, standard), (2958912000, summer), (2974636800, standard), (2990361600, summer),
     (3006086400, standard), (3021811200, summer), (3037536000, standard), (3053260800, summer),
     (3068985600, standard), (3084710400, summer), (3100435200, standard), (3116764800, summer),
     (3132489600, standard), (3148214400, summer), (3163939200, standard), (3179664000, summer),
     (3195388800, standard), (3211113600, summer), (3226838400, standard), (3242563200, summer),
     (3258288000, standard), (3274012800, summer), (3289737600, standard), (3306067200, summer),
     (3321792000, standard), (3337516800, summer), (3353241600, standard), (3368966400, summer),
     (3384691200, standard), (3400416000, summer), (3416140800, standard), (3431865600, summer),
     (3447590400, standard), (3463315200, summer), (3479644800, standard), (3495369600, summer),
     (3511094400, standard), (3526819200, summer), (3542544000, standard), (3558268800, summer),
     (3573993600, standard), (3589718400, summer), (3605443200, standard), (3621168000, summer),
     (3636892800, standard), (3653222400, summer), (3668947200, standard), (3684672000, summer),
     (3700396800, standard), (3716121600, summer), (3731846400, standard), (3747571200, summer),
     (3763296000, standard), (3779020800, summer), (3794745600, standard), (3810470400, summer),
     (3826195200, standard), (3842524800, summer), (3858249600, standard), (3873974400, summer),
     (3889699200, standard), (3905424000, summer), (3921148800, standard), (3936873600, summer),
     (3952598400, standard), (3968323200, summer), (3984048000, standard), (4000377600, summer),
     (4016102400, standard), (4031827200, summer), (4047552000, standard), (4063276800, summer),
     (4079001600, standard), (4094726400, summer)]⟩

def apia : Region :=
  let localMean : Phase := ⟨⟨45184, by decide⟩, ⟨45184, by decide⟩⟩
  let standard1 : Phase := ⟨⟨-41216, by decide⟩, ⟨-41216, by decide⟩⟩
  let standard2 : Phase := ⟨⟨-41400, by decide⟩, ⟨-41400, by decide⟩⟩
  let standard3 : Phase := ⟨⟨-39600, by decide⟩, ⟨-39600, by decide⟩⟩
  let summer1 : Phase := ⟨⟨-39600, by decide⟩, ⟨-36000, by decide⟩⟩
  let summer2 : Phase := ⟨⟨46800, by decide⟩, ⟨50400, by decide⟩⟩
  let standard4 : Phase := ⟨⟨46800, by decide⟩, ⟨46800, by decide⟩⟩
  ⟨"Pacific/Apia", localMean,
    [(-2445424384, standard1), (-1861878784, standard2), (-631110600, standard3),
     (1285498800, summer1), (1301752800, standard3), (1316872800, summer1), (1325239200, summer2),
     (1333202400, standard4), (1348927200, summer2), (1365256800, standard4),
     (1380376800, summer2), (1396706400, standard4), (1411826400, summer2),
     (1428156000, standard4), (1443276000, summer2), (1459605600, standard4),
     (1474725600, summer2), (1491055200, standard4), (1506175200, summer2),
     (1522504800, standard4), (1538229600, summer2), (1554559200, standard4),
     (1569679200, summer2), (1586008800, standard4), (1601128800, summer2),
     (1617458400, standard4)]⟩

def kwajalein : Region :=
  let localMean : Phase := ⟨⟨40160, by decide⟩, ⟨40160, by decide⟩⟩
  let standard1 : Phase := ⟨⟨39600, by decide⟩, ⟨39600, by decide⟩⟩
  let standard2 : Phase := ⟨⟨36000, by decide⟩, ⟨36000, by decide⟩⟩
  let standard3 : Phase := ⟨⟨32400, by decide⟩, ⟨32400, by decide⟩⟩
  let standard4 : Phase := ⟨⟨-43200, by decide⟩, ⟨-43200, by decide⟩⟩
  let standard5 : Phase := ⟨⟨43200, by decide⟩, ⟨43200, by decide⟩⟩
  ⟨"Pacific/Kwajalein", localMean,
    [(-2177492960, standard1), (-1041418800, standard2), (-907408800, standard3),
     (-817462800, standard1), (-7988400, standard4), (745934400, standard5)]⟩

/-- The name counts hours west of Greenwich. -/
def gmtMinus14 : Region :=
  fixed "Etc/GMT-14" ⟨50400, by decide⟩

end ScalarWire.Region
